import DiagnosticCatalog.Proofs.Settings.Grouping
import DiagnosticCatalog.Proofs.Text
import DiagnosticCatalog.Value.Document
/-!
The grammar of settings documents, and the check against it: no fault is found with a document just
if it is of the grammar, and all its severity words can be read.
-/

namespace DiagnosticCatalog

namespace Settings

open Decimal

/-! ## The grammar -/

/-- A text that is not empty, or a number that is whole and not negative, however it is spelt. -/
inductive IsToken : Json → Prop
  | text {t : Text} : t.letters ≠ [] → IsToken (.text t)
  | whole {n : Int} : 0 ≤ n → IsToken (.whole n)
  | real {x : Binary64} {n : Int} : x.toInt? = some n → 0 ≤ n → IsToken (.real x)

inductive AreTokens : Json → Prop
  | one {j : Json} : IsToken j → AreTokens j
  | list {js : List Json} : (∀ j ∈ js, IsToken j) → AreTokens (.array js)

def IsPreset (j : Json) : Prop :=
  j = .null ∨ ∃ w ∈ ["none", "current-compatibility", "released-compatibility"], j = .text ↑w

def IsTruth (j : Json) : Prop := ∃ b, j = .truth b

def IsSeverities (j : Json) : Prop :=
  ∃ es, j = .object es ∧ ∀ e ∈ es,
    (∃ w ∈ ["hidden", "hide", "info", "lint", "warning", "warn", "error"], e.1 = ↑w) ∧
      AreTokens e.2

/-- What the members of a document are held to, each under its name. -/
structure AreEntries (ms : List (Text × Json)) : Prop where
  names : ∀ m ∈ ms,
    ∃ w ∈ ["preset", "warnings_as_errors", "lints_as_errors", "severities"], m.1 = ↑w
  preset : ∀ j, ms.lookup ("preset" : Text) = some j → IsPreset j
  warnings : ∀ j, ms.lookup ("warnings_as_errors" : Text) = some j → IsTruth j
  lints : ∀ j, ms.lookup ("lints_as_errors" : Text) = some j → IsTruth j
  severities : ∀ j, ms.lookup ("severities" : Text) = some j → IsSeverities j

inductive IsSettings : Json → Prop
  | object {ms : List (Text × Json)} : AreEntries ms → IsSettings (.object ms)

end Settings

/-! ## Documents as values -/

namespace Value

theorem ofMembers_eq_map (ms : List (Text × Json)) :
    ofMembers ms = ms.map fun m => (text m.1, ofJson m.2) := by
  induction ms with
  | nil => rfl
  | cons m ms ih => rw [ofMembers, ih, List.map_cons]

theorem content_ofJson (j : Json) : (ofJson j).content = ofJson j := by
  cases j <;> simp only [ofJson, content]

theorem sameKey_text (s t : Text) : sameKey (text s) (text t) = (s == t) := by
  simp only [sameKey, sameAtom, number?, word?]

theorem get?_ofMembers (name : Text) (ms : List (Text × Json)) :
    get? name (ofMembers ms) = (ms.lookup name).map ofJson := by
  induction ms with
  | nil => rfl
  | cons m ms ih =>
      obtain ⟨n, j⟩ := m
      rw [get?] at ih
      rw [ofMembers, get?, List.find?_cons, List.lookup_cons, sameKey_text, BEq.comm]
      cases name == n with
      | true => rfl
      | false => exact ih

end Value

namespace Settings

theorem isAmong_text {names : List String} {t : Text} :
    isAmong names (.text t) = true ↔ ∃ w ∈ names, t = ↑w := by
  rw [isAmong, Option.any_eq_true]
  constructor
  · rintro ⟨s, hs, hmem⟩
    exact ⟨s, List.contains_iff_mem.1 hmem, (Text.string?_eq_some_iff.1 hs).symm⟩
  · rintro ⟨w, hw, rfl⟩
    exact ⟨w, Text.string?_ofString w, List.contains_iff_mem.2 hw⟩

theorem truthComplaint?_eq_none_iff {name : String} {ms : List (Text × Json)} :
    truthComplaint? name (Value.ofMembers ms) = none ↔
      ∀ j, ms.lookup (name : Text) = some j → IsTruth j := by
  rw [truthComplaint?, Value.get?_ofMembers]
  cases ms.lookup (name : Text) with
  | none => simp
  | some j => cases j <;> simp [Value.ofJson, IsTruth]

theorem presetComplaint?_eq_none_iff {ms : List (Text × Json)} :
    presetComplaint? (Value.ofMembers ms) = none ↔
      ∀ j, ms.lookup ("preset" : Text) = some j → IsPreset j := by
  rw [presetComplaint?, Value.get?_ofMembers]
  cases ms.lookup ("preset" : Text) with
  | none => simp
  | some j =>
      cases j with
      | text t =>
          have hamong : isAmong presetNames (.text t) = true ↔ IsPreset (.text t) := by
            simp only [isAmong_text, IsPreset, reduceCtorEq, false_or, Json.text.injEq]
            rfl
          simp only [Option.map_some, Value.ofJson, Option.some.injEq, forall_eq', ← hamong]
          split <;> simp_all
      | _ => simp [Value.ofJson, IsPreset]

/-! ## Tokens -/

theorem wholeFlaw?_eq_none_iff {v : Value} {n : Int} : wholeFlaw? v n = none ↔ 0 ≤ n := by
  rw [wholeFlaw?]
  split
  · simpa using ‹n < 0›
  · simpa using ‹¬n < 0›

theorem tokenFlaw?_eq_none_iff {j : Json} : tokenFlaw? (Value.ofJson j) = none ↔ IsToken j := by
  constructor
  · intro h
    cases j with
    | text t =>
        refine .text fun ht => ?_
        simp [Value.ofJson, tokenFlaw?, Text.isEmpty, ht] at h
    | whole n => exact .whole (wholeFlaw?_eq_none_iff.1 h)
    | real x =>
        rw [Value.ofJson, tokenFlaw?] at h
        cases hx : x.toInt? with
        | none => simp [hx] at h
        | some n =>
            rw [hx] at h
            exact .real hx (wholeFlaw?_eq_none_iff.1 h)
    | _ => cases h
  · rintro (ht | hn | ⟨hx, hn⟩)
    · simpa [Value.ofJson, tokenFlaw?, Text.isEmpty] using ht
    · exact wholeFlaw?_eq_none_iff.2 hn
    · rw [Value.ofJson, tokenFlaw?, hx]
      exact wholeFlaw?_eq_none_iff.2 hn

theorem itemFlaw?_eq_none_iff {n : Nat} {js : List Json} :
    itemFlaw? n (Value.ofJsons js) = none ↔ ∀ j ∈ js, IsToken j := by
  induction js generalizing n with
  | nil => simp [Value.ofJsons, itemFlaw?]
  | cons j js ih =>
      rw [Value.ofJsons, itemFlaw?, List.forall_mem_cons, ← tokenFlaw?_eq_none_iff,
        ← @ih (n + 1)]
      cases tokenFlaw? (Value.ofJson j) <;> simp

theorem not_isToken_array {js : List Json} : ¬IsToken (.array js) := nofun

theorem tokensComplaint?_eq_none_iff {name : String} {j : Json} :
    tokensComplaint? name (Value.ofJson j) = none ↔ AreTokens j := by
  have hone (h : ∀ js, j ≠ .array js) : AreTokens j ↔ IsToken j := by
    constructor
    · rintro (h | _)
      · exact h
      · exact absurd rfl (h _)
    · exact .one
  rw [tokensComplaint?, Value.content_ofJson]
  cases j with
  | array js =>
      simp only [Value.ofJson, Option.map_eq_none_iff, itemFlaw?_eq_none_iff]
      constructor
      · exact .list
      · rintro (h | h)
        · exact absurd h not_isToken_array
        · exact h
  | _ =>
      rw [hone (by simp), ← tokenFlaw?_eq_none_iff]
      simp only [Value.ofJson, Option.map_eq_none_iff]

theorem greater_eq_none_iff {best? : Option (String × Complaint)} {name : String}
    {c? : Option Complaint} : greater best? name c? = none ↔ best? = none ∧ c? = none := by
  unfold greater
  cases c? with
  | none => simp
  | some c =>
      cases best? with
      | none => simp
      | some b =>
          simp only [reduceCtorEq, and_self, iff_false]
          split <;> simp

theorem severitiesComplaint?_eq_none_iff {entries : List (Value × Value)} :
    severitiesComplaint? entries = none ↔ ∀ e ∈ severityEntries entries,
      tokensComplaint? (toString e.1.display) e.2 = none := by
  rw [severitiesComplaint?, Option.map_eq_none_iff]
  suffices h : ∀ (es : List (Value × Value)) (best? : Option (String × Complaint)),
      es.foldl (fun best? e => greater best? (toString e.1.display)
        (tokensComplaint? (toString e.1.display) e.2)) best? = none ↔
        best? = none ∧ ∀ e ∈ es, tokensComplaint? (toString e.1.display) e.2 = none by
    simpa using h (severityEntries entries) none
  intro es
  induction es with
  | nil => simp
  | cons e es ih =>
      intro best?
      rw [List.foldl_cons, ih, greater_eq_none_iff, List.forall_mem_cons, and_assoc]

/-! ## The whole document -/

theorem severityEntries_ofMembers {ms es : List (Text × Json)}
    (h : ms.lookup ("severities" : Text) = some (.object es)) :
    severityEntries (Value.ofMembers ms) = Value.ofMembers es := by
  rw [severityEntries, Value.get?_ofMembers, h]
  rfl

theorem wordsComplaint?_ofMembers {ms es : List (Text × Json)}
    (h : ms.lookup ("severities" : Text) = some (.object es)) :
    wordsComplaint? (Value.ofMembers ms) = none ↔ ∀ e ∈ es, ∃ w ∈ severityWords, e.1 = ↑w := by
  rw [wordsComplaint?, Value.get?_ofMembers, h]
  simp only [Option.map_some, Value.ofJson, Value.content, Option.map_eq_none_iff,
    Value.ofMembers_eq_map, List.find?_map, List.find?_eq_none, Function.comp_apply,
    Bool.not_eq_true', Bool.not_eq_false, isAmong_text]

/-- Under `severities` nothing is wrong if there is nothing or what the grammar asks for. -/
theorem severities_eq_none_iff {ms : List (Text × Json)} :
    (wordsComplaint? (Value.ofMembers ms) = none ∧
        severitiesComplaint? (Value.ofMembers ms) = none) ↔
      ∀ j, ms.lookup ("severities" : Text) = some j → IsSeverities j := by
  cases h : ms.lookup ("severities" : Text) with
  | none =>
      have hget : Value.get? "severities" (Value.ofMembers ms) = none := by
        rw [Value.get?_ofMembers, h, Option.map_none]
      simp [severitiesComplaint?_eq_none_iff, wordsComplaint?, severityEntries, hget]
  | some j =>
      simp only [Option.some.injEq, forall_eq']
      cases j with
      | object es =>
          rw [wordsComplaint?_ofMembers h, severitiesComplaint?_eq_none_iff,
            severityEntries_ofMembers h, Value.ofMembers_eq_map, List.forall_mem_map]
          simp only [tokensComplaint?_eq_none_iff, IsSeverities, Json.object.injEq,
            exists_eq_left']
          exact ⟨fun h e he => ⟨h.1 e he, h.2 e he⟩,
            fun h => ⟨fun e he => (h e he).1, fun e he => (h e he).2⟩⟩
      | _ =>
          have hget := Value.get?_ofMembers "severities" ms
          simp [wordsComplaint?, hget, h, Value.ofJson, Value.content, IsSeverities]

theorem unknown_isEmpty_iff {ms : List (Text × Json)} :
    (((Value.ofMembers ms).map Prod.fst).filter fun k => !isAmong entryNames k).isEmpty = true ↔
      ∀ m ∈ ms, ∃ w ∈ entryNames, m.1 = ↑w := by
  simp only [List.isEmpty_iff, List.filter_eq_nil_iff, Value.ofMembers_eq_map, List.map_map,
    List.forall_mem_map, Function.comp_apply, Bool.not_eq_true', Bool.not_eq_false, isAmong_text]

/-- No fault is found just with the documents of the grammar. -/
theorem complaint?_ofJson_eq_none_iff {j : Json} :
    complaint? (Value.ofJson j) = none ↔ IsSettings j := by
  cases j with
  | object ms =>
      simp only [complaint?, Value.ofJson, Value.content]
      by_cases hnames : ∀ m ∈ ms, ∃ w ∈ entryNames, m.1 = ↑w
      · rw [if_pos (unknown_isEmpty_iff.2 hnames)]
        simp only [Option.orElse_eq_orElse, Option.orElse_eq_or, Option.or_eq_none_iff,
          truthComplaint?_eq_none_iff, presetComplaint?_eq_none_iff]
        constructor
        · rintro ⟨hwarnings, hwords, hpreset, hlints, htokens⟩
          exact ⟨⟨hnames, hpreset, hwarnings, hlints, severities_eq_none_iff.1 ⟨hwords, htokens⟩⟩⟩
        · rintro ⟨⟨_, hpreset, hwarnings, hlints, hseverities⟩⟩
          obtain ⟨hwords, htokens⟩ := severities_eq_none_iff.2 hseverities
          exact ⟨hwarnings, hwords, hpreset, hlints, htokens⟩
      · rw [if_neg (mt unknown_isEmpty_iff.1 hnames)]
        simp only [reduceCtorEq, false_iff]
        rintro ⟨h⟩
        exact hnames h.names
  | _ =>
      simp only [complaint?, Value.ofJson, Value.content, reduceCtorEq, false_iff]
      exact nofun

/-! ## Reading -/

theorem entriesWritable_ofMembers {ms : List (Text × Json)} :
    Value.entriesWritable (Value.ofMembers ms) = true ↔
      ∀ m ∈ ms, (Value.ofJson m.2).isWritable = true := by
  induction ms with
  | nil => simp [Value.ofMembers, Value.entriesWritable]
  | cons m ms ih => simp [Value.ofMembers, Value.entriesWritable, Value.isWritable, ih]

/-- Where no number has too many digits, whatever may have to be spelt can be. -/
theorem isJudgeable_ofJson {j : Json} (h : (Value.ofJson j).isWritable = true) :
    isJudgeable (Value.ofJson j) = true := by
  rw [isJudgeable, Value.content_ofJson]
  cases j with
  | object ms =>
      rw [Value.ofJson, Value.isWritable] at h
      have hms := entriesWritable_ofMembers.1 h
      simp only [Value.ofJson, Value.ofMembers_eq_map, List.all_map, List.all_eq_true]
      intro m hm
      simp [Value.isWritable, hms m hm]
  | _ => exact h

theorem isOk_parse_severityWords : ∀ w ∈ severityWords, (Severity.parse ↑w).isOk = true := by
  decide +kernel

theorem parse_of_mem_severityWords {w : String} (h : w ∈ severityWords) :
    ∃ s, Severity.parse ↑w = .ok s := by
  have hok := isOk_parse_severityWords w h
  cases hp : Severity.parse ↑w with
  | error e =>
      rw [hp] at hok
      cases hok
  | ok s => exact ⟨s, rfl⟩

theorem exists_text_of_isAmong {names : List String} {v : Value} (h : isAmong names v = true) :
    ∃ w ∈ names, v = .text (.ofString w) := by
  cases v with
  | text t =>
      obtain ⟨w, hw, rfl⟩ := isAmong_text.1 h
      exact ⟨w, hw, rfl⟩
  | _ => cases h

theorem isAmong_of_wordsComplaint? {entries : List (Value × Value)}
    (h : wordsComplaint? entries = none) :
    ∀ e ∈ severityEntries entries, isAmong severityWords e.1 = true := by
  rw [wordsComplaint?] at h
  rw [severityEntries]
  cases hget : Value.get? "severities" entries with
  | none => exact fun e he => by cases he
  | some v =>
      rw [hget] at h
      simp only [Option.map_some] at h ⊢
      split
      · rename_i es hes
        rw [Option.some.inj hes] at h
        simpa using h
      · exact fun e he => by cases he

theorem wordsComplaint?_of_none {v : Value} (h : complaint? v = none)
    {entries : List (Value × Value)} (hcontent : v.content = .map entries) :
    wordsComplaint? entries = none := by
  simp only [complaint?, hcontent] at h
  split at h
  · simp only [Option.orElse_eq_orElse, Option.orElse_eq_or, Option.or_eq_none_iff] at h
    exact h.2.1
  · cases h

/-- Where there is nothing to complain of, every key under `severities` is a word for a severity. -/
theorem parse_of_none {v : Value} (h : complaint? v = none) {entries : List (Value × Value)}
    (hcontent : v.content = .map entries) :
    ∀ e ∈ severityEntries entries, ∃ s, Severity.parse e.1.display = .ok s := by
  intro e he
  obtain ⟨w, hw, hword⟩ :=
    exists_text_of_isAmong (isAmong_of_wordsComplaint? (wordsComplaint?_of_none h hcontent) e he)
  rw [hword]
  exact parse_of_mem_severityWords hw

theorem ofDocument_eq_ofEntries {v : Value} (hj : isJudgeable v = true) (hc : complaint? v = none)
    {es : List (Value × Value)} (hcontent : v.content = .map es) (path? : Option String) :
    ofDocument path? v = .ok (ofEntries es) := by
  simp only [ofDocument, hj, if_true, hc, hcontent]
  exact readEntries_eq_ok_iff.2 ⟨parse_of_none hc hcontent, rfl⟩

theorem ofDocument_of_none {v : Value} (hj : isJudgeable v = true) (hc : complaint? v = none) :
    ∃ s, ∀ path?, ofDocument path? v = .ok s := by
  cases hcontent : v.content with
  | map es => exact ⟨_, ofDocument_eq_ofEntries hj hc hcontent⟩
  | _ => exact ⟨blank, fun _ => by simp only [ofDocument, hj, if_true, hc, hcontent]⟩

theorem ofDocument_of_complaint {v : Value} (hj : isJudgeable v = true) {c : Complaint}
    (hc : complaint? v = some c) (path? : Option String) :
    ofDocument path? v = .error (.settings ⟨path?, .complaint c⟩) := by
  rw [ofDocument, if_pos hj, hc]

/-- A document is read or refused, and its path has no part in that. -/
theorem ofDocument_cases {v : Value} (h : isJudgeable v = true) :
    (∃ s, ∀ path?, ofDocument path? v = .ok s) ∨
      ∃ c, ∀ path?, ofDocument path? v = .error (.settings ⟨path?, .complaint c⟩) := by
  cases hc : complaint? v with
  | none => exact .inl (ofDocument_of_none h hc)
  | some c => exact .inr ⟨c, ofDocument_of_complaint h hc⟩

/-- The words under which an accepted document gives severities are words for severities. -/
theorem IsSettings.parse {ms es : List (Text × Json)} (h : IsSettings (.object ms))
    (hes : ms.lookup ("severities" : Text) = some (.object es)) :
    ∀ e ∈ es, ∃ s, Severity.parse e.1 = .ok s := by
  obtain ⟨h⟩ := h
  obtain ⟨fs, hfs, hwords⟩ := h.severities _ hes
  obtain rfl := Json.object.inj hfs
  intro e he
  obtain ⟨⟨w, hw, hew⟩, _⟩ := hwords e he
  rw [hew]
  exact parse_of_mem_severityWords hw

/-! ## Accepted documents -/

theorem ofDocument_eq_ok {path? : Option String} {v : Value} {s : Settings}
    (h : ofDocument path? v = .ok s) :
    ∃ entries, v.content = .map entries ∧ s = ofEntries entries := by
  rw [ofDocument] at h
  split at h
  · split at h
    · cases h
    · rename_i hcontent
      exact ⟨_, hcontent, (readEntries_eq_ok_iff.1 h).2⟩
    · rename_i hnone hmap
      rw [complaint?] at hnone
      split at hnone
      · rename_i entries hcontent
        exact absurd hcontent (hmap entries)
      · cases hnone
  · cases h

theorem complaint?_of_ok {path? : Option String} {v : Value} {s : Settings}
    (h : ofDocument path? v = .ok s) : complaint? v = none := by
  rw [ofDocument] at h
  split at h
  · split at h
    · cases h
    · assumption
    · assumption
  · cases h

theorem wordsComplaint?_of_ok {path? : Option String} {v : Value} {s : Settings}
    (h : ofDocument path? v = .ok s) {entries : List (Value × Value)}
    (hcontent : v.content = .map entries) : wordsComplaint? entries = none :=
  wordsComplaint?_of_none (complaint?_of_ok h) hcontent

theorem exists_parse {path? : Option String} {v : Value} {s : Settings}
    (h : ofDocument path? v = .ok s) {entries : List (Value × Value)}
    (hcontent : v.content = .map entries) :
    ∀ e ∈ severityEntries entries, ∃ s, Severity.parse e.1.display = .ok s :=
  parse_of_none (complaint?_of_ok h) hcontent

end Settings

end DiagnosticCatalog
