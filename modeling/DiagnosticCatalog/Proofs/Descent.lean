import DiagnosticCatalog.Descent
import Mathlib.Logic.Relation
/-!
Walks along a partial function. A walk that ends has one length and one end, so none of its places
comes twice, and a search that remembers where it has been meets nothing that it remembers.
-/

namespace DiagnosticCatalog.Descent

variable {α : Type} {next : α → Option α}

/-- After so many steps from the first place the walk ends at the second. -/
inductive Leads (next : α → Option α) : Nat → α → α → Prop
  | stop {a : α} : next a = none → Leads next 0 a a
  | step {a b c : α} {n : Nat} : next a = some b → Leads next n b c → Leads next (n + 1) a c

theorem Leads.unique {n m : Nat} {a b c : α} (h : Leads next n a b) (k : Leads next m a c) :
    n = m ∧ b = c := by
  induction h generalizing m with
  | stop hn =>
      cases k with
      | stop _ => exact ⟨rfl, rfl⟩
      | step hs _ => exact absurd (hn.symm.trans hs) (by simp)
  | step hs _ ih =>
      cases k with
      | stop hn => exact absurd (hn.symm.trans hs) (by simp)
      | step hs' k =>
          obtain rfl := Option.some.inj (hs.symm.trans hs')
          obtain ⟨rfl, rfl⟩ := ih k
          exact ⟨rfl, rfl⟩

/-- The places that can be reached, the first one among them. -/
def Reaches (next : α → Option α) : α → α → Prop :=
  Relation.ReflTransGen fun a b => next a = some b

theorem Leads.reaches {n : Nat} {a b : α} (h : Leads next n a b) : Reaches next a b := by
  induction h with
  | stop _ => exact .refl
  | step hs _ ih => exact .head hs ih

theorem Reaches.eq_of_stop {a b : α} (h : Reaches next a b) (ha : next a = none) : b = a := by
  obtain rfl | ⟨c, hc, _⟩ := h.cases_head
  · rfl
  · cases ha.symm.trans hc

/-- A memory in which every key belongs to a place from which the walk is no shorter. -/
def Behind {κ : Type} (next : α → Option α) (find? : κ → Option α) (n : Nat) (seen : List κ) :
    Prop :=
  ∀ k ∈ seen, ∃ x m y, find? k = some x ∧ n ≤ m ∧ Leads next m x y

variable {κ : Type} {find? : κ → Option α}

/-- The next place is not remembered. -/
theorem Behind.not_mem {n : Nat} {seen : List κ} (h : Behind next find? (n + 1) seen) {k : κ}
    {b c : α} (hk : find? k = some b) (hb : Leads next n b c) : k ∉ seen := by
  intro hmem
  obtain ⟨x, m, y, hx, hm, hl⟩ := h k hmem
  obtain rfl := Option.some.inj (hk.symm.trans hx)
  obtain ⟨rfl, _⟩ := hb.unique hl
  exact Nat.not_succ_le_self _ hm

theorem Behind.cons {n : Nat} {seen : List κ} (h : Behind next find? (n + 1) seen) {k : κ}
    {b c : α} (hk : find? k = some b) (hb : Leads next n b c) :
    Behind next find? n (k :: seen) := by
  intro j hj
  rcases List.mem_cons.1 hj with rfl | hj
  · exact ⟨b, n, c, hk, Nat.le_refl n, hb⟩
  · obtain ⟨x, m, y, hx, hm, hl⟩ := h j hj
    exact ⟨x, m, y, hx, Nat.le_of_succ_le hm, hl⟩

theorem Behind.singleton {n : Nat} {k : κ} {a c : α} (hk : find? k = some a)
    (ha : Leads next n a c) : Behind next find? n [k] := by
  intro j hj
  obtain rfl := List.mem_singleton.1 hj
  exact ⟨a, n, c, hk, Nat.le_refl n, ha⟩

/-- Among members with different keys a key finds the one that it belongs to. -/
theorem find?_key [DecidableEq κ] {key : α → κ} {l : List α} (h : (l.map key).Nodup) {a : α}
    (ha : a ∈ l) : l.find? (fun b => key b = key a) = some a := by
  induction l with
  | nil => cases ha
  | cons b l ih =>
      obtain ⟨hb, hl⟩ := List.nodup_cons.1 h
      rcases List.mem_cons.1 ha with rfl | ha
      · simp
      · have hne : key b ≠ key a := fun he => hb (he ▸ List.mem_map_of_mem ha)
        rw [List.find?_cons_of_neg (by simpa using hne)]
        exact ih hl ha

theorem find?_key_eq_some_iff [DecidableEq κ] {key : α → κ} {l : List α} (h : (l.map key).Nodup)
    {k : κ} {a : α} : l.find? (fun b => key b = k) = some a ↔ a ∈ l ∧ key a = k := by
  constructor
  · intro hf
    exact ⟨List.mem_of_find?_eq_some hf, by simpa using List.find?_some hf⟩
  · rintro ⟨ha, rfl⟩
    exact find?_key h ha

theorem mem_of_lookup {α β : Type} [BEq α] [LawfulBEq α] {rows : List (α × β)} {a : α} {b : β}
    (h : rows.lookup a = some b) : (a, b) ∈ rows := by
  obtain ⟨before, after, rfl, _⟩ := List.lookup_eq_some_iff.1 h
  exact List.mem_append_right _ List.mem_cons_self

/-- Where keys are different the order of the members does not matter. -/
theorem find?_perm [DecidableEq κ] {key : α → κ} {l m : List α} (hlm : l.Perm m)
    (h : (l.map key).Nodup) (k : κ) :
    l.find? (fun b => key b = k) = m.find? (fun b => key b = k) := by
  have hm : (m.map key).Nodup := (hlm.map key).nodup_iff.1 h
  apply Option.ext
  intro a
  rw [find?_key_eq_some_iff h, find?_key_eq_some_iff hm, hlm.mem_iff]

end DiagnosticCatalog.Descent
