import DiagnosticCatalog.Decimal.Shortest
import DiagnosticCatalog.Proofs.Decimal.Numeral
/-!
The text of a finite number. Positional or with an exponent, it has digits and a mark among them, so
it is never a run of digits, even where the number is whole.
-/

namespace DiagnosticCatalog.Decimal

/-- Digits, at least one, with a point or an exponent. -/
structure IsMarked (cs : List Char) : Prop where
  digit : ∃ c ∈ cs, isDigit c = true
  mark : '.' ∈ cs ∨ 'e' ∈ cs
  chars : ∀ c ∈ cs, isDigit c = true ∨ c = '.' ∨ c = 'e' ∨ c = '+' ∨ c = '-'

theorem IsMarked.isNumeral {cs : List Char} (h : IsMarked cs) : isNumeral cs = false := by
  rw [Bool.eq_false_iff, Ne, Decimal.isNumeral, Bool.and_eq_true, List.all_eq_true]
  rintro ⟨_, hall⟩
  rcases h.mark with hmark | hmark
  · exact absurd (hall _ hmark) (by decide)
  · exact absurd (hall _ hmark) (by decide)

theorem IsMarked.not_isBlank {cs : List Char} (h : IsMarked cs) {c : Char} (hc : c ∈ cs) :
    Text.isBlank c = false := by
  rcases h.chars c hc with hdigit | rfl | rfl | rfl | rfl
  · exact not_isBlank_of_isDigit (.inl hdigit)
  all_goals decide

theorem IsMarked.not_comma {cs : List Char} (h : IsMarked cs) : ',' ∉ cs := by
  intro hc
  exact absurd (h.chars _ hc) (by decide)

theorem IsMarked.dash {cs : List Char} (h : IsMarked cs) : IsMarked ('-' :: cs) := by
  obtain ⟨⟨c, hc, hdigit⟩, hmark, hchars⟩ := h
  refine ⟨⟨c, List.mem_cons_of_mem _ hc, hdigit⟩, ?_, List.forall_mem_cons.2 ⟨by simp, hchars⟩⟩
  exact hmark.imp (List.mem_cons_of_mem _) (List.mem_cons_of_mem _)

theorem isDigit_of_mem_zeroDigits {n : Int} {c : Char} (h : c ∈ zeroDigits n) :
    isDigit c = true := by
  rw [List.eq_of_mem_replicate h]
  decide

theorem isDigit_of_mem_shortest {mantissa : Nat} {exponent : Int} {c : Char}
    (h : c ∈ (shortest mantissa exponent).1) : isDigit c = true :=
  isDigit_of_mem_digits (List.mem_of_mem_take h)

/-- Digits on one side of a point are enough. -/
theorem isMarked_point {left right : List Char} (hleft : ∀ c ∈ left, isDigit c = true)
    (hright : ∀ c ∈ right, isDigit c = true) (h : left ++ right ≠ []) :
    IsMarked (left ++ '.' :: right) := by
  have hdigits := List.forall_mem_append.2 ⟨hleft, hright⟩
  obtain ⟨c, hc⟩ := List.exists_mem_of_ne_nil _ h
  refine ⟨⟨c, ?_, hdigits c hc⟩, .inl (by simp), ?_⟩
  · rcases List.mem_append.1 hc with hc | hc
    · exact List.mem_append_left _ hc
    · exact List.mem_append_right _ (List.mem_cons_of_mem _ hc)
  · rw [List.forall_mem_append, List.forall_mem_cons]
    exact ⟨fun c hc => .inl (hleft c hc), .inr (.inl rfl), fun c hc => .inl (hright c hc)⟩

theorem isDigit_of_mem_zero : ∀ c ∈ ['0'], isDigit c = true :=
  List.forall_mem_singleton.2 (by decide)

theorem isMarked_positional {ds : List Char} (hds : ∀ c ∈ ds, isDigit c = true) (point : Int) :
    IsMarked (positional ds point) := by
  have hzeros := fun n c (hc : c ∈ zeroDigits n) => isDigit_of_mem_zeroDigits hc
  rw [positional]
  split
  · exact isMarked_point isDigit_of_mem_zero (List.forall_mem_append.2 ⟨hzeros _, hds⟩) (by simp)
  · split
    · exact isMarked_point (List.forall_mem_append.2 ⟨hds, hzeros _⟩) isDigit_of_mem_zero (by simp)
    · refine isMarked_point (fun c hc => hds c (List.mem_of_mem_take hc))
        (fun c hc => hds c (List.mem_of_mem_drop hc)) ?_
      -- There are more digits than stand before the point, so there are some.
      rw [List.take_append_drop]
      intro hnil
      have hlength := congrArg List.length hnil
      rw [List.length_nil] at hlength
      omega

theorem isMarked_withExponent (layout : Layout) {ds : List Char} (hds : ∀ c ∈ ds, isDigit c = true)
    (e : Int) : IsMarked (withExponent layout ds e) := by
  obtain ⟨c, hc⟩ := List.exists_mem_of_ne_nil _ (digits_ne_nil e.natAbs)
  refine ⟨⟨c, List.mem_append_right _ hc, isDigit_of_mem_digits hc⟩, .inr (by simp [withExponent]), ?_⟩
  simp only [withExponent, List.forall_mem_append]
  refine ⟨⟨⟨⟨fun c hc => .inl (hds c (List.mem_of_mem_take hc)), ?fraction⟩, ?sign⟩,
    fun c hc => .inl (isDigit_of_mem_zeroDigits hc)⟩, fun c hc => .inl (isDigit_of_mem_digits hc)⟩
  case fraction =>
    split
    · exact fun c hc => by cases hc
    · rw [List.forall_mem_cons]
      exact ⟨.inr (.inl rfl), fun c hc => .inl (hds c (List.mem_of_mem_drop hc))⟩
  case sign =>
    rw [List.forall_mem_cons, List.forall_mem_singleton]
    exact ⟨.inr (.inr (.inl rfl)), by split <;> simp⟩

theorem isMarked_finiteDigits (layout : Layout) (mantissa : Nat) (exponent : Int) :
    IsMarked (finiteDigits layout mantissa exponent) := by
  rw [finiteDigits]
  split
  · exact isMarked_point isDigit_of_mem_zero isDigit_of_mem_zero (List.cons_ne_nil _ _)
  · have hds := fun c (hc : c ∈ (shortest mantissa exponent).1) => isDigit_of_mem_shortest hc
    simp only
    split
    · exact isMarked_positional hds _
    · exact isMarked_withExponent layout hds _

/-- The text of a number with a whole value is no whole number's text. -/
theorem isMarked_text {x : Binary64} {n : Int} (h : x.toInt? = some n) :
    IsMarked x.text.toList := by
  cases x with
  | nan => cases h
  | infinite negative => cases h
  | finite negative mantissa exponent =>
      rw [Binary64.text, String.toList_ofList]
      cases negative with
      | false => exact isMarked_finiteDigits _ _ _
      | true => exact (isMarked_finiteDigits _ _ _).dash

end DiagnosticCatalog.Decimal
