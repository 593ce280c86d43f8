import DiagnosticCatalog.Severity
/-!
The order of severities.
-/

namespace DiagnosticCatalog.Severity

theorem pairwise_all : all.Pairwise (· ≤ ·) := by decide

theorem mem_all (s : Severity) : s ∈ all := by
  cases s <;> decide

theorem le_refl (s : Severity) : s ≤ s := Nat.le_refl s.rank

theorem le_antisymm {s t : Severity} (hst : s ≤ t) (hts : t ≤ s) : s = t := by
  have hrank : s.rank = t.rank := Nat.le_antisymm hst hts
  cases s <;> cases t <;> first | rfl | cases hrank

end DiagnosticCatalog.Severity
