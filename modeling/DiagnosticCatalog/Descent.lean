/-!
Why a search that never meets a thing twice ends: the things not yet met grow fewer.
-/

namespace DiagnosticCatalog.Descent

/-- A narrower test counts fewer members if it drops one of them. -/
theorem countP_lt {α : Type} {p q : α → Bool} {l : List α} {a : α} (ha : a ∈ l)
    (hp : p a = true) (hq : q a = false) (h : ∀ b ∈ l, q b = true → p b = true) :
    l.countP q < l.countP p := by
  induction l with
  | nil => cases ha
  | cons b l ih =>
    have hl : ∀ b ∈ l, q b = true → p b = true := fun b hb => h b (List.mem_cons_of_mem _ hb)
    have hle : l.countP q ≤ l.countP p := List.countP_mono_left hl
    rcases List.mem_cons.1 ha with rfl | ha
    · simp [hp, hq]
      omega
    · have := ih ha hl
      have hb := h b List.mem_cons_self
      by_cases hqb : q b = true
      · simp [hqb, hb hqb, this]
      · simp [List.countP_cons, hqb]
        omega

end DiagnosticCatalog.Descent
