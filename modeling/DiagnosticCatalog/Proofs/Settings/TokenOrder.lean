import DiagnosticCatalog.Proofs.Settings
import DiagnosticCatalog.Proofs.Settings.Grammar
/-!
The order in which the tokens of a document are applied: by ascending severity, and for one severity
as they stand in the document, under whichever of its words. None is lost and none is added.
-/

namespace DiagnosticCatalog

/-- The words for a severity in a document. -/
def Severity.words : Severity → List String
  | hidden => ["hidden", "hide"]
  | info => ["info"]
  | lint => ["lint"]
  | warning => ["warning", "warn"]
  | error => ["error"]

namespace Settings

/-! ## The words of a severity -/

theorem words_partition : ∀ w ∈ severityWords, ∃ s ∈ Severity.all, w ∈ s.words ∧
    ∀ t ∈ Severity.all, w ∈ t.words → t = s := by
  decide +kernel

theorem parse_word : ∀ w ∈ severityWords, ∀ s ∈ Severity.all,
    ((Severity.parse ↑w).toOption = some s ↔ w ∈ s.words) := by
  decide +kernel

theorem isAmong_ofString {names : List String} {w : String} :
    isAmong names (.text (.ofString w)) = true ↔ w ∈ names := by
  simp [isAmong_text]

/-- A key among the words stands for one severity. -/
theorem exists_severity_of_isAmong {k : Value} (hk : isAmong severityWords k = true) :
    ∃ s : Severity, isAmong s.words k = true ∧
      ∀ t : Severity, isAmong t.words k = true → t = s := by
  obtain ⟨w, hw, rfl⟩ := exists_text_of_isAmong hk
  obtain ⟨s, _, hs, honly⟩ := words_partition w hw
  refine ⟨s, isAmong_ofString.2 hs, fun t ht => ?_⟩
  exact honly t (Severity.mem_all t) (isAmong_ofString.1 ht)

theorem parse_eq_some_iff_isAmong {k : Value} (hk : isAmong severityWords k = true)
    (s : Severity) : (Severity.parse k.display).toOption = some s ↔ isAmong s.words k = true := by
  obtain ⟨w, hw, rfl⟩ := exists_text_of_isAmong hk
  rw [isAmong_ofString]
  exact parse_word w hw s (Severity.mem_all s)

/-! ## The tokens of one severity -/

/-- The texts of the items under the words for a severity, key by key as they stand. -/
def textsUnder (s : Severity) (entries : List (Value × Value)) : List Text :=
  entries.flatMap fun e =>
    if isAmong s.words e.1 then (tokenValues e.2).map Value.display else []

theorem texts_tokensFor {entries : List (Value × Value)}
    (h : ∀ e ∈ entries, isAmong severityWords e.1 = true) (s : Severity) :
    (tokensFor s entries).map (fun q => q.1.display) = textsUnder s entries := by
  have hwords : (entries.filter fun e => (Severity.parse e.1.display).toOption = some s) =
      entries.filter fun e => isAmong s.words e.1 := by
    refine List.filter_congr fun e he => ?_
    rw [Bool.eq_iff_iff, decide_eq_true_eq]
    exact parse_eq_some_iff_isAmong (h e he) s
  rw [tokensFor, hwords, List.map_flatMap, flatMap_filter, textsUnder]
  simp only [List.map_map, Function.comp_def]

theorem filter_tokensFor (s t : Severity) (entries : List (Value × Value)) :
    (tokensFor t entries).filter (fun q => q.2 = s) =
      if t = s then tokensFor t entries else [] := by
  split
  · rename_i hts
    refine List.filter_eq_self.2 fun q hq => ?_
    rw [severity_of_mem_tokensFor hq, hts, decide_eq_true_eq]
  · rename_i hts
    refine List.filter_eq_nil_iff.2 fun q hq => ?_
    rw [severity_of_mem_tokensFor hq, decide_eq_true_eq]
    exact hts

/-- Of the ordered tokens those of a severity come from its own run over the document alone. -/
theorem filter_orderedTokens (s : Severity) (entries : List (Value × Value)) :
    (orderedTokens entries).filter (fun q => q.2 = s) = tokensFor s (severityEntries entries) := by
  simp only [orderedTokens, List.filter_flatMap, filter_tokensFor]
  cases s <;> simp [Severity.all]

/-! ## What is read from a document -/

/-- The entries under `severities`; a document without them has none. -/
inductive HasSeverities (v : Value) : List (Value × Value) → Prop
  | absent {entries : List (Value × Value)} : v.content = .map entries →
      Value.get? "severities" entries = none → HasSeverities v []
  | present {entries es : List (Value × Value)} {w : Value} : v.content = .map entries →
      Value.get? "severities" entries = some w → w.content = .map es → HasSeverities v es

theorem hasSeverities_of_wordsComplaint? {v : Value} {entries : List (Value × Value)}
    (hcontent : v.content = .map entries) (h : wordsComplaint? entries = none) :
    HasSeverities v (severityEntries entries) := by
  rw [wordsComplaint?] at h
  rw [severityEntries]
  cases hget : Value.get? "severities" entries with
  | none => exact .absent hcontent hget
  | some w =>
      rw [hget] at h
      simp only [Option.map_some] at h ⊢
      cases hw : w.content with
      | map es => exact .present hcontent hget hw
      | _ => simp [hw] at h

/-- The tokens of settings that are read ascend in severity, and those of one severity are the texts
of the items under its words, in the order of the document. -/
theorem ofDocument_tokens {path? : Option String} {v : Value} {s : Settings}
    (h : ofDocument path? v = .ok s) : ∃ es, HasSeverities v es ∧
      (∀ e ∈ es, ∃ t : Severity, isAmong t.words e.1 = true ∧
        ∀ u : Severity, isAmong u.words e.1 = true → u = t) ∧
      (s.severities.Pairwise fun p q => p.2.rank ≤ q.2.rank) ∧
      ∀ t : Severity, (s.severities.filter fun q => q.2 = t).map Prod.fst = textsUnder t es := by
  have hascend := pairwise_ofDocument h
  obtain ⟨entries, hcontent, rfl⟩ := ofDocument_eq_ok h
  have hwords := wordsComplaint?_of_ok h hcontent
  have hkeys := isAmong_of_wordsComplaint? hwords
  refine ⟨severityEntries entries, hasSeverities_of_wordsComplaint? hcontent hwords,
    fun e he => exists_severity_of_isAmong (hkeys e he), hascend, fun t => ?_⟩
  calc ((ofEntries entries).severities.filter fun q => q.2 = t).map Prod.fst
      = ((orderedTokens entries).filter fun q => q.2 = t).map (fun q => q.1.display) := by
        rw [ofEntries, List.filter_map, List.map_map]
        rfl
    _ = (tokensFor t (severityEntries entries)).map (fun q => q.1.display) := by
        rw [filter_orderedTokens]
    _ = textsUnder t (severityEntries entries) := texts_tokensFor hkeys t

/-- A severity under both of its words, a word with no items, a number, and a token that comes
twice. -/
def sampleUnordered : Json := .object [("severities", .object [
  ("error", .array [.text "Typo", .text "Typo"]), ("warn", .real (.ofInt 7)), ("hide", .array []),
  ("warning", .array [.text "A, B", .whole 3]), ("hidden", .text "B")])]

def sampleOrdered : Settings := ⟨none, false, false, [("B", .hidden), ("7.0", .warning),
  ("A, B", .warning), ("3", .warning), ("Typo", .error), ("Typo", .error)]⟩

theorem ofDocument_tokens_sample :
    ofDocument none (.ofJson sampleUnordered) = .ok sampleOrdered ∧
    ∃ es, HasSeverities (.ofJson sampleUnordered) es ∧
      (sampleOrdered.severities.Pairwise fun p q => p.2.rank ≤ q.2.rank) ∧
      ∀ t : Severity,
        (sampleOrdered.severities.filter fun q => q.2 = t).map Prod.fst = textsUnder t es := by
  have hread : ofDocument none (.ofJson sampleUnordered) = .ok sampleOrdered :=
    (ofDocument_eq_ofEntries (by decide +kernel) (by decide +kernel) rfl none).trans
      (congrArg Except.ok (by decide +kernel))
  obtain ⟨es, hes, _, hascend, htexts⟩ := ofDocument_tokens hread
  exact ⟨hread, es, hes, hascend, htexts⟩

end Settings

end DiagnosticCatalog
