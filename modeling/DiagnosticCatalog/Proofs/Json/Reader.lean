import DiagnosticCatalog.Json.Reader
import DiagnosticCatalog.Proofs.Decimal.Numeral
import DiagnosticCatalog.Proofs.Settings.Grammar
import Mathlib.Data.List.TakeWhile
/-!
What can be read from JSON text. What is left of a text after a value is the end of it, and the only
fault besides that of its form is a run of more digits than a number may have; so every whole number
that was read has few enough of them to be written again.
-/

namespace DiagnosticCatalog

namespace Decimal

theorem isWritable_signed {negative : Bool} {n : Nat} :
    isWritable (Binary64.signed negative n) = true ↔ n < Nat.pow 10 digitLimit := by
  have habs : (Binary64.signed negative n).natAbs = n := by
    cases negative <;> simp [Binary64.signed]
  rw [isWritable, decide_eq_true_eq, habs]

/-- A number that can be read from digits can be written again. -/
theorem isWritable_of_readNumeral {cs : List Char} (h : ∀ c ∈ cs, isDigit c = true) {n : Nat}
    (hn : readNumeral cs = .ok n) (negative : Bool) :
    isWritable (Binary64.signed negative n) = true := by
  rw [isWritable_signed]
  rw [readNumeral] at hn
  -- The limit stays a variable, so that its power of ten is not computed.
  generalize digitLimit = limit at hn ⊢
  split at hn
  · cases hn
  · rename_i hlength
    obtain rfl := Except.ok.inj hn
    have hpow := Nat.pow_le_pow_right (show 0 < 10 by decide) (Nat.not_lt.1 hlength)
    exact Nat.lt_of_lt_of_le (ofDigits_lt h) hpow

end Decimal

namespace Json

open Decimal

/-- A run of digits in the text that is too long for a number. -/
def HasRun (n : Nat) (cs : List Char) : Prop :=
  digitLimit < n ∧ ∃ ds, ds <:+: cs ∧ ds.length = n ∧ ∀ c ∈ ds, isDigit c = true

/-- What comes of reading from the start of a text. -/
inductive Reads {α : Type} (P : α → Prop) (cs : List Char) :
    Except ReadFault (α × List Char) → Prop
  | ok {a : α} {rest : List Char} : P a → rest <:+ cs → Reads P cs (.ok (a, rest))
  | malformed : Reads P cs (.error .malformed)
  | overlong {n : Nat} : HasRun n cs → Reads P cs (.error (.overlong (.reading n)))

section

variable {α β : Type} {P : α → Prop} {Q : β → Prop} {cs cs' : List Char}

theorem HasRun.of_suffix {n : Nat} (h : HasRun n cs') (hs : cs' <:+ cs) : HasRun n cs := by
  obtain ⟨hn, ds, hds, hlength, hdigits⟩ := h
  exact ⟨hn, ds, hds.trans hs.isInfix, hlength, hdigits⟩

theorem Reads.of_suffix {x : Except ReadFault (α × List Char)} (h : Reads P cs' x)
    (hs : cs' <:+ cs) : Reads P cs x := by
  cases h with
  | ok ha hrest => exact .ok ha (hrest.trans hs)
  | malformed => exact .malformed
  | overlong hrun => exact .overlong (hrun.of_suffix hs)

theorem Reads.bind {x : Except ReadFault (α × List Char)}
    {f : α × List Char → Except ReadFault (β × List Char)} (h : Reads P cs x)
    (hf : ∀ a rest, P a → rest <:+ cs → Reads Q rest (f (a, rest))) : Reads Q cs (x >>= f) := by
  cases h with
  | ok ha hrest => exact (hf _ _ ha hrest).of_suffix hrest
  | malformed => exact .malformed
  | overlong hrun => exact .overlong hrun

theorem Reads.map {x : Except ReadFault (α × List Char)} (h : Reads P cs x) {f : α → β}
    (hf : ∀ a, P a → Q (f a)) : Reads Q cs (x.map fun (a, rest) => (f a, rest)) := by
  cases h with
  | ok ha hrest => exact .ok (hf _ ha) hrest
  | malformed => exact .malformed
  | overlong hrun => exact .overlong hrun

end

/-! ## Scalars -/

theorem skipSpace_suffix (cs : List Char) : skipSpace cs <:+ cs := List.dropWhile_suffix _

theorem afterWord?_suffix {word cs rest : List Char} (h : afterWord? word cs = some rest) :
    rest <:+ cs := by
  induction word generalizing cs with
  | nil =>
      obtain rfl := Option.some.inj h
      exact List.suffix_rfl
  | cons w word ih =>
      cases cs with
      | nil => cases h
      | cons c cs =>
          rw [afterWord?] at h
          split at h
          · exact (ih h).trans (List.suffix_cons c cs)
          · cases h

/-- A letter in front of those read leaves the same text. -/
theorem exists_of_prepend {x : Option (List Letter × List Char)} {l : Letter}
    {letters : List Letter} {rest : List Char}
    (h : (x.bind fun (letters, rest) => some (l :: letters, rest)) = some (letters, rest)) :
    ∃ more, x = some (more, rest) := by
  obtain ⟨⟨more, left⟩, hx, h⟩ := Option.bind_eq_some_iff.1 h
  obtain ⟨_, rfl⟩ := Prod.mk.inj (Option.some.inj h)
  exact ⟨more, hx⟩

theorem readLetters_suffix {cs rest : List Char} {letters : List Letter}
    (h : readLetters cs = some (letters, rest)) : rest <:+ cs := by
  induction cs using readLetters.induct generalizing letters with
  | case1 => cases h
  | case2 tail =>
      obtain ⟨rfl, rfl⟩ := Prod.mk.inj (Option.some.inj h)
      exact List.suffix_cons _ _
  | case3 a b c d tail ih =>
      rw [readLetters] at h
      obtain ⟨unit, _, h⟩ := Option.bind_eq_some_iff.1 h
      obtain ⟨more, hmore⟩ := exists_of_prepend h
      exact (ih hmore).trans ⟨['\\', 'u', a, b, c, d], rfl⟩
  | case4 c tail hu ih =>
      rw [readLetters.eq_4 _ _ hu] at h
      obtain ⟨unit, _, h⟩ := Option.bind_eq_some_iff.1 h
      obtain ⟨more, hmore⟩ := exists_of_prepend h
      exact (ih hmore).trans ⟨['\\', c], rfl⟩
  | case5 c tail hquote hu hescape hc =>
      rw [readLetters.eq_5 _ _ hquote hu hescape, if_pos hc] at h
      cases h
  | case6 c tail hquote hu hescape hc ih =>
      rw [readLetters.eq_5 _ _ hquote hu hescape, if_neg hc] at h
      obtain ⟨more, hmore⟩ := exists_of_prepend h
      exact (ih hmore).trans (List.suffix_cons c tail)

/-- Values in which no number has too many digits to be written. -/
def IsWritable (j : Json) : Prop := (Value.ofJson j).isWritable = true

theorem reads_readString (cs : List Char) : Reads (fun _ => True) cs (readString cs) := by
  rw [readString]
  cases h : readLetters cs with
  | none => exact .malformed
  | some r => exact .ok trivial (readLetters_suffix h)

theorem takeWhole_spec (cs : List Char) : (takeWhole cs).1 <:+: cs ∧ (takeWhole cs).2 <:+ cs ∧
    ∀ c ∈ (takeWhole cs).1, isDigit c = true := by
  rw [takeWhole.eq_def]
  split
  · rename_i rest
    refine ⟨⟨[], rest, rfl⟩, List.suffix_cons _ _, ?_⟩
    simp only [List.mem_singleton, forall_eq]
    decide
  · exact ⟨(List.takeWhile_prefix _).isInfix, List.dropWhile_suffix _,
      fun c hc => List.mem_takeWhile_imp hc⟩

theorem takeFraction_suffix (cs : List Char) : (takeFraction cs).2 <:+ cs := by
  rw [takeFraction.eq_def]
  split
  · rename_i rest
    dsimp only
    split
    · exact List.suffix_rfl
    · exact (List.dropWhile_suffix _).trans (List.suffix_cons _ _)
  · exact List.suffix_rfl

theorem takeExponent_suffix (cs : List Char) : (takeExponent cs).2 <:+ cs := by
  cases cs with
  | nil => exact List.suffix_rfl
  | cons c rest =>
      have hbody {body : List Char} (negative : Bool) (h : body <:+ rest) :
          (if (body.takeWhile isDigit).isEmpty then (none, c :: rest) else
            (some (Binary64.signed negative (ofDigits (body.takeWhile isDigit))),
              body.dropWhile isDigit)).2 <:+ c :: rest := by
        split
        · exact List.suffix_rfl
        · exact (List.dropWhile_suffix _).trans (h.trans (List.suffix_cons c rest))
      simp only [takeExponent]
      split
      · split
        · exact hbody true (List.suffix_cons _ _)
        · exact hbody false (List.suffix_cons _ _)
        · exact hbody false List.suffix_rfl
      · exact List.suffix_rfl

theorem reads_readNumber (negative : Bool) (cs : List Char) :
    Reads IsWritable cs (readNumber negative cs) := by
  obtain ⟨hfront, hrest, hdigits⟩ := takeWhole_spec cs
  have hleft : (takeExponent (takeFraction (takeWhole cs).2).2).2 <:+ cs :=
    (takeExponent_suffix _).trans ((takeFraction_suffix _).trans hrest)
  simp only [readNumber]
  split
  · exact .malformed
  · split
    · cases h : readNumeral (takeWhole cs).1 with
      | ok n => exact .ok (isWritable_of_readNumeral hdigits h negative) hleft
      | error e =>
          rw [readNumeral] at h
          split at h
          · rename_i hlong
            obtain rfl := Except.error.inj h
            exact .overlong ⟨hlong, _, hfront, rfl, hdigits⟩
          · cases h
    · exact .ok rfl hleft

theorem isWritable_of_mem_words : ∀ w ∈ words, IsWritable w.2 := by
  simp [words, IsWritable, Value.ofJson, Value.isWritable]

theorem readWord_spec {cs rest : List Char} {j : Json} (h : readWord cs = some (j, rest)) :
    IsWritable j ∧ rest <:+ cs := by
  obtain ⟨w, hw, h⟩ := List.exists_of_findSome?_eq_some h
  obtain ⟨left, hleft, h⟩ := Option.map_eq_some_iff.1 h
  obtain ⟨rfl, rfl⟩ := Prod.mk.inj h
  exact ⟨isWritable_of_mem_words w hw, afterWord?_suffix hleft⟩

theorem reads_readScalar (cs : List Char) : Reads IsWritable cs (readScalar cs) := by
  rw [readScalar.eq_def]
  split
  · rename_i r h
    obtain ⟨hj, hrest⟩ := readWord_spec h
    exact .ok hj hrest
  · split
    · have htext : ∀ t, True → IsWritable (.text t) := fun _ _ => rfl
      exact ((reads_readString _).map htext).of_suffix (List.suffix_cons _ _)
    · exact (reads_readNumber true _).of_suffix (List.suffix_cons _ _)
    · exact reads_readNumber false cs

/-! ## Values -/

theorem isWritable_array {js : List Json} : IsWritable (.array js) ↔ ∀ j ∈ js, IsWritable j := by
  rw [IsWritable, Value.ofJson, Value.isWritable]
  induction js with
  | nil => simp [Value.ofJsons, Value.areWritable]
  | cons j js ih => simp [Value.ofJsons, Value.areWritable, ih, IsWritable]

theorem isWritable_object {ms : List (Text × Json)} :
    IsWritable (.object ms) ↔ ∀ m ∈ ms, IsWritable m.2 := by
  rw [IsWritable, Value.ofJson, Value.isWritable]
  exact Settings.entriesWritable_ofMembers

theorem isWritable_bind {ms : List (Text × Json)} (hms : ∀ m ∈ ms, IsWritable m.2) {j : Json}
    (hj : IsWritable j) (name : Text) : ∀ m ∈ bind name j ms, IsWritable m.2 := by
  induction ms with
  | nil => simpa [bind] using hj
  | cons m ms ih =>
      obtain ⟨hm, hms⟩ := List.forall_mem_cons.1 hms
      rw [bind]
      split
      · exact List.forall_mem_cons.2 ⟨hj, hms⟩
      · exact List.forall_mem_cons.2 ⟨hm, ih hms⟩

theorem reads_readName (cs : List Char) : Reads (fun _ => True) cs (readName cs) := by
  rw [readName.eq_def]
  split
  · refine ((reads_readString _).bind fun name rest _ _ => ?_).of_suffix (List.suffix_cons _ _)
    dsimp only
    split
    · rename_i left hleft
      have hcolon : left <:+ rest := by
        exact (List.suffix_cons _ _).trans (hleft ▸ skipSpace_suffix rest)
      exact .ok trivial ((skipSpace_suffix left).trans hcolon)
    · exact .malformed
  · exact .malformed

/-- What follows the first character that is no blank. -/
theorem suffix_of_skipSpace {cs rest : List Char} {c : Char} (h : skipSpace cs = c :: rest) :
    rest <:+ cs :=
  (List.suffix_cons c rest).trans (h ▸ skipSpace_suffix cs)

section

variable {fuel : Nat} (hvalue : ∀ cs, Reads IsWritable cs (readValue fuel cs))
  (hitems : ∀ cs, Reads (fun js => ∀ j ∈ js, IsWritable j) cs (readItems fuel cs))
  (hmembers : ∀ done cs, (∀ m ∈ done, IsWritable m.2) →
    Reads (fun ms => ∀ m ∈ ms, IsWritable m.2) cs (readMembers fuel done cs))

include hitems hmembers in
theorem reads_readValue_succ (cs : List Char) : Reads IsWritable cs (readValue (fuel + 1) cs) := by
  by_cases harray : ∃ rest, cs = '[' :: rest
  · obtain ⟨rest, rfl⟩ := harray
    rw [readValue.eq_2]
    refine Reads.of_suffix ?_ (List.suffix_cons _ rest)
    split
    · rename_i left hleft
      exact .ok (isWritable_array.2 (by simp)) (suffix_of_skipSpace hleft)
    · refine Reads.of_suffix ?_ (skipSpace_suffix rest)
      exact (hitems _).bind fun js left hjs _ => .ok (isWritable_array.2 hjs) List.suffix_rfl
  by_cases hobject : ∃ rest, cs = '\x7b' :: rest
  · obtain ⟨rest, rfl⟩ := hobject
    rw [readValue.eq_3]
    refine Reads.of_suffix ?_ (List.suffix_cons _ rest)
    split
    · rename_i left hleft
      exact .ok (isWritable_object.2 (by simp)) (suffix_of_skipSpace hleft)
    · refine Reads.of_suffix ?_ (skipSpace_suffix rest)
      exact (hmembers [] _ (by simp)).bind fun ms left hms _ =>
        .ok (isWritable_object.2 hms) List.suffix_rfl
  rw [readValue.eq_4 _ _ (fun rest h => harray ⟨rest, h⟩) fun rest h => hobject ⟨rest, h⟩]
  exact reads_readScalar cs

include hvalue hitems in
theorem reads_readItems_succ (cs : List Char) :
    Reads (fun js => ∀ j ∈ js, IsWritable j) cs (readItems (fuel + 1) cs) := by
  rw [readItems.eq_2]
  refine (hvalue cs).bind fun item rest hitem _ => ?_
  dsimp only
  split
  · rename_i left hleft
    refine Reads.of_suffix ?_ ((skipSpace_suffix left).trans (suffix_of_skipSpace hleft))
    refine (hitems _).bind fun items tail hall _ => .ok ?_ List.suffix_rfl
    exact List.forall_mem_cons.2 ⟨hitem, hall⟩
  · rename_i left hleft
    exact .ok (by simpa using hitem) (suffix_of_skipSpace hleft)
  · exact .malformed

include hvalue hmembers in
theorem reads_readMembers_succ {done : List (Text × Json)} (hdone : ∀ m ∈ done, IsWritable m.2)
    (cs : List Char) :
    Reads (fun ms => ∀ m ∈ ms, IsWritable m.2) cs (readMembers (fuel + 1) done cs) := by
  rw [readMembers.eq_2]
  refine (reads_readName cs).bind fun name rest _ _ => ?_
  refine (hvalue rest).bind fun j rest hj _ => ?_
  have hbound := isWritable_bind hdone hj name
  dsimp only
  split
  · rename_i left hleft
    refine Reads.of_suffix ?_ ((skipSpace_suffix left).trans (suffix_of_skipSpace hleft))
    exact hmembers _ _ hbound
  · rename_i left hleft
    exact .ok hbound (suffix_of_skipSpace hleft)
  · exact .malformed

end

/-- Values, items and members are read alike. The induction is on the fuel, for all three at once. -/
theorem reads_within (fuel : Nat) : (∀ cs, Reads IsWritable cs (readValue fuel cs)) ∧
    (∀ cs, Reads (fun js => ∀ j ∈ js, IsWritable j) cs (readItems fuel cs)) ∧
    ∀ done cs, (∀ m ∈ done, IsWritable m.2) →
      Reads (fun ms => ∀ m ∈ ms, IsWritable m.2) cs (readMembers fuel done cs) := by
  induction fuel with
  | zero => exact ⟨fun _ => .malformed, fun _ => .malformed, fun _ _ _ => .malformed⟩
  | succ fuel ih =>
      obtain ⟨hvalue, hitems, hmembers⟩ := ih
      exact ⟨reads_readValue_succ hitems hmembers, reads_readItems_succ hvalue hitems,
        fun _ cs hdone => reads_readMembers_succ hvalue hmembers hdone cs⟩

/-- A text is read to a value whose numbers can be written, or has no form, or has a run of too many
digits. -/
theorem read_cases (s : String) : (∃ j, read s = .ok j ∧ IsWritable j) ∨
    read s = .error .malformed ∨
    ∃ n, read s = .error (.overlong (.reading n)) ∧ HasRun n s.toList := by
  have h := ((reads_within (2 * s.toList.length + 2)).1 (skipSpace s.toList)).of_suffix
    (skipSpace_suffix s.toList)
  rw [read]
  generalize readValue (2 * s.toList.length + 2) (skipSpace s.toList) = x at h
  cases h with
  | @ok j rest hj _ =>
      by_cases hend : (skipSpace rest).isEmpty = true
      · exact .inl ⟨j, if_pos hend, hj⟩
      · exact .inr (.inl (if_neg hend))
  | malformed => exact .inr (.inl rfl)
  | overlong hrun => exact .inr (.inr ⟨_, rfl, hrun⟩)

end Json

end DiagnosticCatalog
