import DiagnosticCatalog.Proofs.Severity
import DiagnosticCatalog.Proofs.Table
import DiagnosticCatalog.Settings
import Mathlib.Data.List.Nodup
/-!
Tokens by severity. Entries are gone through once, and the tokens of each are put behind those that
the severity of its key already has; told by ascending severity they are the same as if the entries
were gone through once for every severity. A key that stands for none stops it.
-/

namespace DiagnosticCatalog

theorem Severity.sort_eq_filter {ss : List Severity} (h : ss.Nodup) :
    sort ss = all.filter (· ∈ ss) := by
  have hle : ∀ {s t : Severity}, decide (s ≤ t) = true → s ≤ t := of_decide_eq_true
  have htrans : ∀ s t u : Severity, decide (s ≤ t) = true → decide (t ≤ u) = true →
      decide (s ≤ u) = true := fun s t u hst htu =>
    decide_eq_true (Nat.le_trans (hle hst) (hle htu))
  have htotal : ∀ s t : Severity, (decide (s ≤ t) || decide (t ≤ s)) = true := fun s t => by
    rw [Bool.or_eq_true, decide_eq_true_eq, decide_eq_true_eq]
    exact Nat.le_total s.rank t.rank
  have hsorted := (List.pairwise_mergeSort htrans htotal ss).imp hle
  have hmembers : (sort ss).Perm (all.filter (· ∈ ss)) := by
    refine (List.mergeSort_perm ss _).trans ?_
    rw [List.perm_ext_iff_of_nodup h ((by decide : all.Nodup).filter _)]
    intro s
    simp [mem_all s]
  exact hmembers.eq_of_pairwise (fun _ _ _ _ => le_antisymm) hsorted (pairwise_all.filter _)

theorem flatMap_filter {α β : Type} (p : α → Bool) (f : α → List β) (l : List α) :
    (l.filter p).flatMap f = l.flatMap fun a => if p a then f a else [] := by
  induction l with
  | nil => rfl
  | cons a l ih =>
      rw [List.filter_cons, List.flatMap_cons, ← ih]
      split
      · rfl
      · rfl

namespace Settings

/-- The tokens given for a severity under any of its words, in document order. -/
def tokensFor (s : Severity) (entries : List (Value × Value)) : List (Value × Severity) :=
  (entries.filter fun e => (Severity.parse e.1.display).toOption = some s).flatMap fun e =>
    (tokenValues e.2).map fun v => (v, s)

/-- All tokens, those of the least severity first. -/
def orderedTokens (entries : List (Value × Value)) : List (Value × Severity) :=
  Severity.all.flatMap fun s => tokensFor s (severityEntries entries)

/-- What entries ask for if there are severities alone among the keys. -/
def ofEntries (entries : List (Value × Value)) : Settings where
  preset? := presetOf? entries
  warningsAsErrors := flag "warnings_as_errors" entries
  lintsAsErrors := flag "lints_as_errors" entries
  severities := (orderedTokens entries).map fun t => (t.1.display, t.2)

theorem severity_of_mem_tokensFor {s : Severity} {entries : List (Value × Value)}
    {q : Value × Severity} (h : q ∈ tokensFor s entries) : q.2 = s := by
  obtain ⟨e, _, hq⟩ := List.mem_flatMap.1 h
  obtain ⟨v, _, rfl⟩ := List.mem_map.1 hq
  rfl

theorem tokensFor_cons {e : Value × Value} {t : Severity}
    (h : Severity.parse e.1.display = .ok t) (s : Severity) (es : List (Value × Value)) :
    tokensFor s (e :: es) =
      (if s = t then (tokenValues e.2).map fun v => (v, s) else []) ++ tokensFor s es := by
  have hword : (Severity.parse e.1.display).toOption = some t := by rw [h]; rfl
  simp only [tokensFor, List.filter_cons, hword, Option.some.injEq, decide_eq_true_eq]
  by_cases hs : s = t
  · rw [if_pos hs.symm, if_pos hs, List.flatMap_cons]
  · rw [if_neg (Ne.symm hs), if_neg hs, List.nil_append]

/-! ## Groups -/

theorem Groups.tokens_extend (g : Groups) (s t : Severity) (tokens : List Text) :
    (g.extend s tokens).tokens t = if t = s then g.tokens s ++ tokens else g.tokens t := by
  simp only [extend, Groups.tokens, Table.get?_bind]
  split
  · rfl
  · rfl

/-- Severities without a group have no tokens, so it does no harm to ask for them as well. -/
theorem Groups.flatten_eq {g : Groups} (h : (g.rows.map Prod.fst).Nodup) :
    g.flatten = Severity.all.flatMap fun s => (g.tokens s).map fun t => (t, s) := by
  rw [flatten, Severity.sort_eq_filter h, flatMap_filter]
  congr 1
  funext s
  split
  · rfl
  · rename_i hs
    have hnone : g.get? s = none := by
      rw [Table.get?_eq_lookup, List.lookup_eq_none_iff]
      intro row hrow
      refine bne_iff_ne.2 fun he => hs (decide_eq_true ?_)
      rw [he]
      exact List.mem_map_of_mem hrow
    rw [Groups.tokens, hnone]
    rfl

theorem group_cons_eq_ok_iff {g g' : Groups} {e : Value × Value} {es : List (Value × Value)} :
    group g (e :: es) = .ok g' ↔ ∃ s, Severity.parse e.1.display = .ok s ∧
      group (g.extend s ((tokenValues e.2).map Value.display)) es = .ok g' := by
  rw [group]
  cases Severity.parse e.1.display with
  | error f => simp
  | ok s => simp

theorem exists_group_iff {g : Groups} {es : List (Value × Value)} :
    (∃ g', group g es = .ok g') ↔ ∀ e ∈ es, ∃ s, Severity.parse e.1.display = .ok s := by
  induction es generalizing g with
  | nil => exact ⟨fun _ => List.forall_mem_nil _, fun _ => ⟨g, rfl⟩⟩
  | cons e es ih =>
      simp only [group_cons_eq_ok_iff, List.forall_mem_cons]
      constructor
      · rintro ⟨g', s, hs, hrest⟩
        exact ⟨⟨s, hs⟩, ih.1 ⟨g', hrest⟩⟩
      · rintro ⟨⟨s, hs⟩, hrest⟩
        obtain ⟨g', hg⟩ := (@ih (g.extend s _)).2 hrest
        exact ⟨g', s, hs, hg⟩

/-- Each group has the tokens that it had and then those of the entries. -/
theorem tokens_of_group {g g' : Groups} {es : List (Value × Value)} (h : group g es = .ok g')
    (s : Severity) :
    g'.tokens s = g.tokens s ++ (tokensFor s es).map fun q => q.1.display := by
  induction es generalizing g with
  | nil =>
      obtain rfl := Except.ok.inj h
      exact (List.append_nil _).symm
  | cons e es ih =>
      obtain ⟨t, ht, hrest⟩ := group_cons_eq_ok_iff.1 h
      rw [ih hrest, Groups.tokens_extend, tokensFor_cons ht]
      by_cases hs : s = t
      · subst hs
        simp [Function.comp_def]
      · simp [hs]

theorem nodup_of_group {g g' : Groups} {es : List (Value × Value)} (h : group g es = .ok g')
    (hg : (g.rows.map Prod.fst).Nodup) : (g'.rows.map Prod.fst).Nodup := by
  induction es generalizing g with
  | nil =>
      obtain rfl := Except.ok.inj h
      exact hg
  | cons e es ih =>
      obtain ⟨t, _, hrest⟩ := group_cons_eq_ok_iff.1 h
      exact ih hrest (Table.nodup_keys_bindRow t _ hg)

theorem flatten_of_group {g : Groups} {entries : List (Value × Value)}
    (h : group .empty (severityEntries entries) = .ok g) :
    g.flatten = (orderedTokens entries).map fun t => (t.1.display, t.2) := by
  rw [Groups.flatten_eq (nodup_of_group h List.nodup_nil), orderedTokens, List.map_flatMap]
  congr 1
  funext s
  rw [tokens_of_group h s, List.map_append, List.map_map]
  exact List.map_congr_left fun q hq => by rw [Function.comp_apply, severity_of_mem_tokensFor hq]

/-- Entries are read just if all keys under `severities` are words for severities. -/
theorem readEntries_eq_ok_iff {entries : List (Value × Value)} {s : Settings} :
    readEntries entries = .ok s ↔
      (∀ e ∈ severityEntries entries, ∃ t, Severity.parse e.1.display = .ok t) ∧
        s = ofEntries entries := by
  rw [readEntries, ← @exists_group_iff .empty]
  cases hg : group .empty (severityEntries entries) with
  | error f => simp [Except.map]
  | ok g => simp [Except.map, ofEntries, flatten_of_group hg, eq_comm]

end Settings

end DiagnosticCatalog
