import DiagnosticCatalog.Proofs.Descent
import DiagnosticCatalog.Proofs.Registry.Write
import DiagnosticCatalog.Table
import Mathlib.Data.List.Nodup
/-!
What a table has under its keys: for each the value that was bound last, and a row for each key that
was ever bound.
-/

namespace DiagnosticCatalog

open Descent

/-- Where keys are different there is one member to a key, from whichever end it is looked for. -/
theorem findRev?_key {α κ : Type} [DecidableEq κ] {key : α → κ} {l : List α}
    (h : (l.map key).Nodup) (k : κ) :
    l.findRev? (fun a => key a = k) = l.find? (fun a => key a = k) := by
  rw [List.findRev?_eq_find?_reverse]
  exact (find?_perm l.reverse_perm.symm h k).symm

namespace Table

variable {κ α β : Type} [DecidableEq κ]

section

variable [BEq κ] [LawfulBEq κ]

theorem lookup_cons (k j : κ) (a : α) (rows : List (κ × α)) :
    ((k, a) :: rows).lookup j = if j = k then some a else rows.lookup j := by
  rw [List.lookup_cons]
  by_cases h : j = k
  · rw [if_pos h, beq_iff_eq.2 h]
  · rw [if_neg h, beq_false_of_ne h]

theorem lookup_bindRow (k j : κ) (a : α) (rows : List (κ × α)) :
    (bindRow k a rows).lookup j = if j = k then some a else rows.lookup j := by
  induction rows with
  | nil => exact lookup_cons k j a []
  | cons row rows ih =>
      obtain ⟨i, b⟩ := row
      rw [bindRow]
      by_cases hi : i = k
      · subst hi
        rw [if_pos rfl, lookup_cons, lookup_cons]
        by_cases h : j = i
        · rw [if_pos h, if_pos h]
        · rw [if_neg h, if_neg h, if_neg h]
      · rw [if_neg hi, lookup_cons, lookup_cons, ih]
        by_cases h : j = i
        · rw [if_pos h, if_neg (h ▸ hi), if_pos h]
        · rw [if_neg h, if_neg h]

theorem get?_eq_lookup (t : Table κ α) (k : κ) : t.get? k = t.rows.lookup k := by
  obtain ⟨rows⟩ := t
  rw [get?]
  induction rows with
  | nil => rfl
  | cons row rows ih =>
      obtain ⟨i, b⟩ := row
      rw [lookup_cons, ← ih]
      by_cases h : k = i
      · simp [h]
      · simp [h, Ne.symm h]

/-- Rows with different keys are found by their keys. -/
theorem mem_iff_lookup {rows : List (κ × α)} (h : (rows.map Prod.fst).Nodup) {k : κ} {a : α} :
    (k, a) ∈ rows ↔ rows.lookup k = some a := by
  rw [← get?_eq_lookup ⟨rows⟩ k, get?, Option.map_eq_some_iff]
  simp [find?_key_eq_some_iff h]

end

theorem get?_bind (t : Table κ α) (k j : κ) (a : α) :
    (t.bind k a).get? j = if j = k then some a else t.get? j := by
  rw [get?_eq_lookup, get?_eq_lookup]
  exact lookup_bindRow k j a t.rows

theorem keys_bindRow (k : κ) (a : α) (rows : List (κ × α)) :
    (bindRow k a rows).map Prod.fst =
      if k ∈ rows.map Prod.fst then rows.map Prod.fst else rows.map Prod.fst ++ [k] := by
  induction rows with
  | nil => rfl
  | cons row rows ih =>
      obtain ⟨j, b⟩ := row
      rw [bindRow]
      by_cases hj : j = k
      · simp [hj]
      · rw [if_neg hj, List.map_cons, ih]
        split <;> simp_all [eq_comm]

theorem nodup_keys_bindRow (k : κ) (a : α) {rows : List (κ × α)}
    (h : (rows.map Prod.fst).Nodup) : ((bindRow k a rows).map Prod.fst).Nodup := by
  rw [keys_bindRow]
  split
  · exact h
  · rename_i hk
    exact List.concat_eq_append ▸ h.concat hk

theorem size_bind {t : Table κ α} {k : κ} (h : t.get? k = none) (a : α) :
    (t.bind k a).size = t.size + 1 := by
  obtain ⟨rows⟩ := t
  simp only [get?, Option.map_eq_none_iff, List.find?_eq_none, decide_eq_true_eq] at h
  simp only [bind, size]
  induction rows with
  | nil => rfl
  | cons row rows ih =>
      have hrow : row.1 ≠ k := h row List.mem_cons_self
      rw [bindRow, if_neg hrow, List.length_cons, List.length_cons,
        ih fun row hmem => h row (List.mem_cons_of_mem _ hmem)]

section

variable (key : β → κ) (value : β → α)

theorem bindAll_concat (t : Table κ α) (l : List β) (b : β) :
    t.bindAll key value (l ++ [b]) = (t.bindAll key value l).bind (key b) (value b) :=
  List.foldl_append

/-- The last member with a key decides what is bound to it. -/
theorem get?_bindAll (t : Table κ α) (l : List β) (k : κ) :
    (t.bindAll key value l).get? k = ((l.findRev? fun b => key b = k).map value).or (t.get? k) := by
  induction l generalizing t with
  | nil => rfl
  | cons b l ih =>
      change ((t.bind (key b) (value b)).bindAll key value l).get? k = _
      rw [ih, get?_bind, findRev?_cons]
      cases l.findRev? fun b => key b = k with
      | some c => rfl
      | none =>
          by_cases h : key b = k
          · simp [h]
          · simp [h, Ne.symm h]

variable {key}

/-- Members with different keys have a row each. -/
theorem size_bindAll {t : Table κ α} {l : List β} (hl : (l.map key).Nodup)
    (ht : ∀ b ∈ l, t.get? (key b) = none) :
    (t.bindAll key value l).size = t.size + l.length := by
  induction l generalizing t with
  | nil => rfl
  | cons b l ih =>
      obtain ⟨hb, hl⟩ := List.nodup_cons.1 hl
      have hrest : ∀ c ∈ l, (t.bind (key b) (value b)).get? (key c) = none := by
        intro c hc
        have hne : key c ≠ key b := fun he => hb (he ▸ List.mem_map_of_mem hc)
        rw [get?_bind, if_neg hne]
        exact ht c (List.mem_cons_of_mem _ hc)
      change ((t.bind (key b) (value b)).bindAll key value l).size = _
      rw [ih hl hrest, size_bind (ht b List.mem_cons_self), List.length_cons]
      omega

theorem get?_ofKeyed {l : List β} (hl : (l.map key).Nodup) (k : κ) :
    (Table.empty.bindAll key value l).get? k = (l.find? fun b => key b = k).map value := by
  rw [get?_bindAll, findRev?_key hl]
  exact Option.or_none

theorem size_ofKeyed {l : List β} (hl : (l.map key).Nodup) :
    (Table.empty.bindAll key value l).size = l.length :=
  (size_bindAll value hl fun _ _ => rfl).trans (Nat.zero_add _)

end

end Table

end DiagnosticCatalog
