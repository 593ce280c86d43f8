import DiagnosticCatalog.Text.Blank
import Mathlib.Data.List.DropRight
/-!
Stripping. What is stripped off stands at the ends and is of the class; what is left begins and ends
with no member of it, and is all that the result depends on.
-/

namespace DiagnosticCatalog.Text

variable {α : Type} {p : α → Bool}

/-- The list neither begins nor ends with a member of the class. -/
structure Bare (p : α → Bool) (l : List α) : Prop where
  head : ∀ x ∈ l.head?, p x = false
  last : ∀ x ∈ l.getLast?, p x = false

theorem stripOf_eq_rdropWhile (p : α → Bool) (l : List α) :
    stripOf p l = (l.dropWhile p).rdropWhile p := rfl

theorem dropWhile_eq_self_of_head {l : List α} (h : ∀ x ∈ l.head?, p x = false) :
    l.dropWhile p = l := by
  cases l with
  | nil => rfl
  | cons x l => exact List.dropWhile_cons_of_neg (by simp [h x rfl])

theorem Bare.stripOf_eq {l : List α} (h : Bare p l) : stripOf p l = l := by
  have hlast : ∀ x ∈ l.reverse.head?, p x = false := fun x hx => h.last x (List.head?_reverse ▸ hx)
  rw [stripOf, dropWhile_eq_self_of_head h.head, dropWhile_eq_self_of_head hlast,
    List.reverse_reverse]

theorem stripOf_eq_self {l : List α} (h : ∀ x ∈ l, p x = false) : stripOf p l = l :=
  Bare.stripOf_eq ⟨fun x hx => h x (List.mem_of_mem_head? hx),
    fun x hx => h x (List.mem_of_getLast? hx)⟩

/-- Members of the class at the ends do not matter. -/
theorem stripOf_append {left right : List α} (hl : ∀ x ∈ left, p x = true)
    (hr : ∀ x ∈ right, p x = true) (l : List α) :
    stripOf p (left ++ l ++ right) = stripOf p l := by
  have hright : ∀ x ∈ right.reverse, p x = true := fun x hx => hr x (List.mem_reverse.1 hx)
  rw [stripOf, List.append_assoc, List.dropWhile_append_of_pos hl, List.dropWhile_append]
  split
  · rename_i hempty
    rw [stripOf, List.isEmpty_iff.1 hempty, List.dropWhile_eq_nil_iff.2 hr]
  · rw [List.reverse_append, List.dropWhile_append_of_pos hright, stripOf]

theorem exists_stripOf (p : α → Bool) (l : List α) : ∃ left right,
    left ++ stripOf p l ++ right = l ∧ (∀ x ∈ left, p x = true) ∧ ∀ x ∈ right, p x = true := by
  refine ⟨l.takeWhile p, (l.dropWhile p).rtakeWhile p, ?_, ?_, ?_⟩
  · rw [stripOf_eq_rdropWhile, List.append_assoc, List.rdropWhile_append_rtakeWhile,
      List.takeWhile_append_dropWhile]
  · exact fun x hx => List.mem_takeWhile_imp hx
  · exact fun x hx => List.mem_rtakeWhile_imp hx

theorem head?_dropWhile (l : List α) : ∀ x ∈ (l.dropWhile p).head?, p x = false := by
  intro x hx
  have h := List.head?_dropWhile_not p l
  rw [Option.mem_def.1 hx] at h
  simpa using h

theorem bare_stripOf (p : α → Bool) (l : List α) : Bare p (stripOf p l) := by
  constructor
  · intro x hx
    obtain ⟨right, hright⟩ := List.rdropWhile_prefix p (l := l.dropWhile p)
    refine head?_dropWhile l x ?_
    rw [← hright, ← stripOf_eq_rdropWhile, List.head?_append, Option.mem_def.1 hx]
    rfl
  · intro x hx
    rw [stripOf, List.getLast?_reverse] at hx
    exact head?_dropWhile _ x hx

theorem mem_stripOf {l : List α} {x : α} (hx : x ∈ l) (hp : p x = false) : x ∈ stripOf p l := by
  obtain ⟨left, right, hl, hleft, hright⟩ := exists_stripOf p l
  rw [← hl, List.mem_append, List.mem_append] at hx
  rcases hx with (hx | hx) | hx
  · cases hp.symm.trans (hleft x hx)
  · exact hx
  · cases hp.symm.trans (hright x hx)

end DiagnosticCatalog.Text
