import DiagnosticCatalog.Proofs.Json.Schema
import DiagnosticCatalog.Proofs.Settings.Grammar
import DiagnosticCatalog.Settings.Schema
/-!
The schema of settings documents keeps to their grammar, and so does the reading of them: a document
is read just if it keeps the schema, and else it is refused with a complaint. Seven schemas lie
within one another, with the reference to the definition of a token.
-/

namespace DiagnosticCatalog.Settings

open Json Decimal

variable {depth : Nat} {j : Json}

/-! ## Entries of one value -/

theorem keeps_truthSchema : keeps schema (depth + 1) truthSchema j = true ↔ IsTruth j := by
  have h : keeps schema (depth + 1) truthSchema j = j.isOfType "boolean" := by
    simp [truthSchema, schemaType, keeps_object, asserts, applies, typeNames]
  rw [h]
  cases j <;> simp [isOfType, IsTruth]

theorem keeps_presetSchema : keeps schema (depth + 1) presetSchema j = true ↔ IsPreset j := by
  have h : keeps schema (depth + 1) presetSchema j =
      ((j.isOfType "string" || j.isOfType "null") &&
        (schemaChoices presetNames ++ [Json.null]).any (isChoice · j)) := by
    simp [presetSchema, schemaChoices, presetNames, keeps_object, asserts, applies, typeNames,
      items]
  rw [h]
  cases j with
  | text t =>
      simp [isOfType, IsPreset, schemaChoices, isChoice, presetNames, nonePreset, Preset.all,
        Preset.name]
  | null => simp [isOfType, IsPreset, schemaChoices, isChoice]
  | _ => simp [isOfType, IsPreset]

/-! ## Tokens -/

theorem isToken_iff : IsToken j ↔
    (∃ t, j = .text t ∧ t.letters ≠ []) ∨ ∃ n, j.whole? = some n ∧ 0 ≤ n := by
  constructor
  · rintro (ht | hn | ⟨hx, hn⟩)
    · exact .inl ⟨_, rfl, ht⟩
    · exact .inr ⟨_, rfl, hn⟩
    · exact .inr ⟨_, hx, hn⟩
  · rintro (⟨t, rfl, ht⟩ | ⟨n, hn, hle⟩)
    · exact .text ht
    · cases j with
      | whole m =>
          obtain rfl := Option.some.inj hn
          exact .whole hle
      | real x => exact .real hn hle
      | _ => cases hn

theorem areTokens_iff :
    AreTokens j ↔ IsToken j ∨ ∃ js, j = .array js ∧ ∀ i ∈ js, IsToken i := by
  constructor
  · rintro (h | h)
    · exact .inl h
    · exact .inr ⟨_, rfl, h⟩
  · rintro (h | ⟨js, rfl, h⟩)
    · exact .one h
    · exact .list h

theorem keeps_textSchema :
    keeps schema (depth + 1) (.object [schemaType "string", ("minLength", .whole 1)]) j = true ↔
      ∃ t, j = .text t ∧ t.letters ≠ [] := by
  rw [keeps_object]
  cases j with
  | text t =>
      have hlength : 1 ≤ (t.letters.length : Int) ↔ t.letters ≠ [] := by
        rw [← List.length_pos_iff]
        omega
      simp [schemaType, asserts, applies, typeNames, isOfType, hlength]
  | _ => simp [schemaType, asserts, applies, typeNames, isOfType]

theorem keeps_wholeSchema :
    keeps schema (depth + 1) (.object [schemaType "integer", ("minimum", .whole 0)]) j = true ↔
      ∃ n, j.whole? = some n ∧ 0 ≤ n := by
  rw [keeps_object]
  cases hn : j.whole? with
  | none => cases j <;> simp_all [schemaType, asserts, applies, typeNames, isOfType, whole?]
  | some n =>
      have hleast := isAtLeast_of_whole? hn 0
      cases j <;> simp_all [schemaType, asserts, applies, typeNames, isOfType, whole?]

theorem keeps_tokenSchema : keeps schema (depth + 2) tokenSchema j = true ↔ IsToken j := by
  rw [tokenSchema, keeps_oneOf, keeps_textSchema, keeps_wholeSchema, isToken_iff]
  -- No text is a number, so of the two there is never more than one.
  rw [keeps_textSchema, keeps_wholeSchema]
  rintro ⟨⟨t, rfl, _⟩, n, hn, _⟩
  cases hn

theorem definition?_token : definition? schema "#/$defs/token" = some tokenSchema := rfl

theorem keeps_tokenReference :
    keeps schema (depth + 3) (schemaReference "token") j = true ↔ IsToken j := by
  have href : schemaReference "token" = .object [("$ref", .text "#/$defs/token")] := rfl
  rw [href, keeps_reference definition?_token, keeps_tokenSchema]

def tokenListSchema : Json := .object [schemaType "array", ("items", schemaReference "token")]

theorem keeps_tokenListSchema : keeps schema (depth + 4) tokenListSchema j = true ↔
    ∃ js, j = .array js ∧ ∀ i ∈ js, IsToken i := by
  rw [tokenListSchema, keeps_object]
  cases j <;>
    simp [schemaType, asserts, applies, typeNames, isOfType, items, keeps_tokenReference]

def tokensSchema : Json := .object [("oneOf", .array [schemaReference "token", tokenListSchema])]

theorem keeps_tokensSchema : keeps schema (depth + 5) tokensSchema j = true ↔ AreTokens j := by
  have htoken : keeps schema (depth + 4) (schemaReference "token") j = true ↔ IsToken j :=
    keeps_tokenReference
  rw [tokensSchema, keeps_oneOf, htoken, keeps_tokenListSchema, areTokens_iff]
  rw [htoken, keeps_tokenListSchema]
  rintro ⟨h, js, rfl, _⟩
  exact not_isToken_array h

/-! ## The whole document -/

def wordSchema : Json := .object [("enum", .array (schemaChoices severityWords))]

theorem keeps_wordSchema {t : Text} :
    keeps schema (depth + 1) wordSchema (.text t) = true ↔ ∃ w ∈ severityWords, t = ↑w := by
  rw [wordSchema, keeps_object]
  simp [asserts, applies, items, schemaChoices, isChoice]

theorem severitiesSchema_eq : severitiesSchema = .object [schemaType "object",
    ("propertyNames", wordSchema), ("additionalProperties", tokensSchema)] := rfl

theorem keeps_severitiesSchema :
    keeps schema (depth + 6) severitiesSchema j = true ↔ IsSeverities j := by
  rw [severitiesSchema_eq]
  cases j with
  | object es =>
      have h : keeps schema (depth + 6) (.object [schemaType "object",
            ("propertyNames", wordSchema), ("additionalProperties", tokensSchema)]) (.object es) =
          ((es.all fun m => keeps schema (depth + 5) wordSchema (.text m.1)) &&
            es.all fun m => keeps schema (depth + 5) tokensSchema m.2) := by
        simp [keeps_object, schemaType, asserts, applies, typeNames, isOfType, members,
          declaredNames, List.lookup_cons, List.lookup_nil]
      rw [h, Bool.and_eq_true, List.all_eq_true, List.all_eq_true]
      simp only [keeps_wordSchema, keeps_tokensSchema, IsSeverities, Json.object.injEq,
        exists_eq_left']
      exact ⟨fun h e he => ⟨h.1 e he, h.2 e he⟩,
        fun h => ⟨fun e he => (h e he).1, fun e he => (h e he).2⟩⟩
  | _ => simp [keeps_object, schemaType, asserts, typeNames, isOfType, IsSeverities]

/-- What the schema asks of each member of an object. -/
theorem keeps_schema_object {root : Json} {ms : List (Text × Json)} :
    keeps root (depth + 2) schema (.object ms) = true ↔
      (∀ m ∈ ms, ∃ w ∈ entryNames, m.1 = ↑w) ∧
      (∀ v, ms.lookup ("preset" : Text) = some v → keeps root (depth + 1) presetSchema v = true) ∧
      (∀ v, ms.lookup ("warnings_as_errors" : Text) = some v →
        keeps root (depth + 1) truthSchema v = true) ∧
      (∀ v, ms.lookup ("lints_as_errors" : Text) = some v →
        keeps root (depth + 1) truthSchema v = true) ∧
      ∀ v, ms.lookup ("severities" : Text) = some v →
        keeps root (depth + 1) severitiesSchema v = true := by
  have hfalse (v : Json) : keeps root (depth + 1) (.truth false) v = false := rfl
  rw [schema, keeps_object]
  simp [schemaType, asserts, applies, typeNames, isOfType, members, declaredNames,
    List.lookup_cons, hfalse, entryNames, Option.all_eq_true]

theorem keeps_schema : keeps schema (depth + 7) schema j = true ↔ IsSettings j := by
  cases j with
  | object ms =>
      rw [keeps_schema_object]
      simp only [keeps_presetSchema, keeps_truthSchema, keeps_severitiesSchema]
      constructor
      · rintro ⟨hnames, hpreset, hwarnings, hlints, hseverities⟩
        exact .object ⟨hnames, hpreset, hwarnings, hlints, hseverities⟩
      · rintro ⟨⟨hnames, hpreset, hwarnings, hlints, hseverities⟩⟩
        exact ⟨hnames, hpreset, hwarnings, hlints, hseverities⟩
  | _ =>
      rw [schema, keeps_object]
      simp only [schemaType, asserts, typeNames, isOfType, List.all_cons, List.any_cons]
      exact iff_of_false (by simp) (by rintro ⟨_⟩)

/-! ## Reading -/

/-- A document is read if it is of the grammar, and else refused with a complaint; the schema draws
the same line. No severity word of a document that is read is unknown. -/
theorem ofDocument_decides (path? : Option String) (hj : (Value.ofJson j).isWritable = true) :
    ((∃ s, ofDocument path? (.ofJson j) = .ok s) ↔ IsSettings j) ∧
    ((∃ c, ofDocument path? (.ofJson j) = .error (.settings ⟨path?, .complaint c⟩)) ↔
      ¬IsSettings j) ∧
    (∀ depth, keeps schema (depth + 7) schema j = true ↔ IsSettings j) ∧
    ∀ ms es, j = .object ms → ms.lookup ("severities" : Text) = some (.object es) →
      IsSettings j → ∀ e ∈ es, ∃ s, Severity.parse e.1 = .ok s := by
  have hschema : ∀ depth, keeps schema (depth + 7) schema j = true ↔ IsSettings j :=
    fun _ => keeps_schema
  have hwords : ∀ ms es, j = .object ms → ms.lookup ("severities" : Text) = some (.object es) →
      IsSettings j → ∀ e ∈ es, ∃ s, Severity.parse e.1 = .ok s := by
    rintro ms es rfl hes h
    exact h.parse hes
  cases hc : complaint? (.ofJson j) with
  | none =>
      have hsettings := complaint?_ofJson_eq_none_iff.1 hc
      obtain ⟨s, hs⟩ := ofDocument_of_none (isJudgeable_ofJson hj) hc
      refine ⟨iff_of_true ⟨s, hs path?⟩ hsettings, iff_of_false ?_ (not_not_intro hsettings), hschema,
        hwords⟩
      rintro ⟨c, h⟩
      cases (hs path?).symm.trans h
  | some c =>
      have hsettings : ¬IsSettings j := by
        rw [← complaint?_ofJson_eq_none_iff, hc]
        nofun
      have herror := ofDocument_of_complaint (isJudgeable_ofJson hj) hc path?
      refine ⟨iff_of_false ?_ hsettings, iff_of_true ⟨c, herror⟩ hsettings, hschema, hwords⟩
      rintro ⟨s, h⟩
      cases herror.symm.trans h

/-- Tokens of every kind. -/
def sampleSeverities : List (Text × Json) := [("hide", .array []), ("warning", .real (.ofInt 7)),
  ("warn", .array [.whole 30, .text "addedPackage, 3"])]

def sampleDocument : Json := .object [("preset", .null), ("lints_as_errors", .truth true),
  ("severities", .object sampleSeverities)]

/-- A truth value stands for a number. -/
def sampleRefused : Json := .object [("severities", .object [("error", .truth true)])]

theorem ofDocument_decides_sample :
    (∃ s, ofDocument none (.ofJson sampleDocument) = .ok s) ∧
    (∀ e ∈ sampleSeverities, ∃ s, Severity.parse e.1 = .ok s) ∧
    ∃ c, ofDocument none (.ofJson sampleRefused) = .error (.settings ⟨none, .complaint c⟩) := by
  have hread := ofDocument_decides none (j := sampleDocument) (by decide +kernel)
  have hrefused := ofDocument_decides none (j := sampleRefused) (by decide +kernel)
  have hsettings : IsSettings sampleDocument := (hread.2.2.1 0).1 (by decide +kernel)
  refine ⟨hread.1.2 hsettings, hread.2.2.2 _ _ rfl rfl hsettings, hrefused.2.1.2 ?_⟩
  rw [← hrefused.2.2.1 0]
  decide +kernel

end DiagnosticCatalog.Settings
