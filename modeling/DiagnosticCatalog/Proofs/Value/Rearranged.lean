import DiagnosticCatalog.Value
/-!
Values that differ in the order of entries alone. Mappings may be rearranged at any depth within
lists, tuples and the values of mappings; keys are left as they are.
-/

namespace DiagnosticCatalog.Value

/-- The least congruence that rearranges mappings. -/
inductive Rearranged : Value → Value → Prop
  | refl (v : Value) : Rearranged v v
  | symm {v w : Value} : Rearranged v w → Rearranged w v
  | trans {u v w : Value} : Rearranged u v → Rearranged v w → Rearranged u w
  | perm {es fs : List (Value × Value)} : es.Perm fs → Rearranged (.map es) (.map fs)
  | item (front back : List Value) {v w : Value} : Rearranged v w →
      Rearranged (.list (front ++ v :: back)) (.list (front ++ w :: back))
  | part (front back : List Value) {v w : Value} : Rearranged v w →
      Rearranged (.tuple (front ++ v :: back)) (.tuple (front ++ w :: back))
  | entry (front back : List (Value × Value)) (k : Value) {v w : Value} : Rearranged v w →
      Rearranged (.map (front ++ (k, v) :: back)) (.map (front ++ (k, w) :: back))

namespace Rearranged

/-- One item after the other. The items already rearranged stand in front. -/
theorem items {f : Value → Value} {xs : List Value} (h : ∀ x ∈ xs, Rearranged x (f x)) :
    Rearranged (.list xs) (.list (xs.map f)) := by
  suffices key : ∀ front, Rearranged (.list (front ++ xs)) (.list (front ++ xs.map f)) from key []
  induction xs with
  | nil => exact fun front => .refl _
  | cons x xs ih =>
      intro front
      obtain ⟨hx, hxs⟩ := List.forall_mem_cons.1 h
      have hrest := ih hxs (front ++ [f x])
      rw [List.append_assoc, List.append_assoc] at hrest
      exact (Rearranged.item front xs hx).trans hrest

theorem entries {f : Value → Value} {es : List (Value × Value)}
    (h : ∀ e ∈ es, Rearranged e.2 (f e.2)) :
    Rearranged (.map es) (.map (es.map fun e => (e.1, f e.2))) := by
  suffices key : ∀ front,
      Rearranged (.map (front ++ es)) (.map (front ++ es.map fun e => (e.1, f e.2))) from key []
  induction es with
  | nil => exact fun front => .refl _
  | cons e es ih =>
      intro front
      obtain ⟨he, hes⟩ := List.forall_mem_cons.1 h
      have hrest := ih hes (front ++ [(e.1, f e.2)])
      rw [List.append_assoc, List.append_assoc] at hrest
      exact (Rearranged.entry front es e.1 he).trans hrest

end Rearranged

end DiagnosticCatalog.Value
