import DiagnosticCatalog.Proofs.Json.Place
import DiagnosticCatalog.Proofs.Settings.Schema
import DiagnosticCatalog.Proofs.Table
/-!
Where the complaint about a document points. The place is there, what stands there does not keep the
part of the schema that is for the place, and while it stands there no document is accepted. The
whole document is pointed at just where it is no object or has a name that the schema does not know.
-/

namespace DiagnosticCatalog.Settings

open Descent Json

/-! ## What is wrong at a place -/

/-- An entry of a document by its name, with the schema for it and what that asks. -/
inductive EntryRule : String → Json → (Json → Prop) → Prop
  | preset : EntryRule "preset" presetSchema IsPreset
  | warnings : EntryRule "warnings_as_errors" truthSchema IsTruth
  | lints : EntryRule "lints_as_errors" truthSchema IsTruth
  | severities : EntryRule "severities" severitiesSchema IsSeverities

/-- The document is no object, or has a name that the schema does not know. -/
def IsForeign (j : Json) : Prop :=
  (∀ ms, j ≠ .object ms) ∨ ∃ m ∈ j.members, m.1 ∉ declaredNames schema.members

/-- What stands at the place is wrong by itself. -/
inductive Faulty : Json → List Step → Json → Prop
  | whole {j : Json} : IsForeign j → Faulty j [] j
  | entry {ms : List (Text × Json)} {name : String} {part node : Json} {P : Json → Prop} :
      EntryRule name part P → ((name : Text), node) ∈ ms → ¬P node →
      Faulty (.object ms) [.key name] node
  | tokens {ms es : List (Text × Json)} {name : String} {node : Json} :
      (("severities" : Text), Json.object es) ∈ ms → ((name : Text), node) ∈ es →
      ¬AreTokens node → Faulty (.object ms) [.key "severities", .key name] node
  | item {ms es : List (Text × Json)} {js : List Json} {name : String} {n : Nat} {node : Json} :
      (("severities" : Text), Json.object es) ∈ ms → ((name : Text), Json.array js) ∈ es →
      js[n]? = some node → ¬IsToken node →
      Faulty (.object ms) [.key "severities", .key name, .index n] node

section

variable {name : String} {part : Json} {P : Json → Prop}

theorem EntryRule.lookup_eq (h : EntryRule name part P) :
    ((schema.members.lookup ("properties" : Text)).getD .null).members.lookup (name : Text) =
      some part := by
  cases h <;> rfl

theorem EntryRule.governs_iff (h : EntryRule name part P) {place : List Step} {p : Json} :
    Governs schema schema (.key name :: place) p ↔ Governs schema part place p := by
  have hdeclared : (name : Text) ∈ declaredNames schema.members :=
    List.mem_map_of_mem (mem_of_lookup h.lookup_eq)
  refine (governs_key_iff rfl rfl).trans ⟨?_, fun hp => ⟨part, .inl h.lookup_eq, hp⟩⟩
  rintro ⟨_, hschema | ⟨hname, _⟩, hp⟩
  · obtain rfl := Option.some.inj (h.lookup_eq.symm.trans hschema)
    exact hp
  · exact absurd hdeclared hname

theorem EntryRule.keeps_iff (h : EntryRule name part P) (depth : Nat) (j : Json) :
    keeps schema (depth + 7) part j = true ↔ P j := by
  cases h with
  | preset => exact keeps_presetSchema
  | warnings => exact keeps_truthSchema
  | lints => exact keeps_truthSchema
  | severities => exact keeps_severitiesSchema

theorem EntryRule.of_isSettings (h : EntryRule name part P) {ms : List (Text × Json)}
    (hms : IsSettings (.object ms)) {j : Json} (hj : ms.lookup (name : Text) = some j) : P j := by
  obtain ⟨hentries⟩ := hms
  cases h with
  | preset => exact hentries.preset j hj
  | warnings => exact hentries.warnings j hj
  | lints => exact hentries.lints j hj
  | severities => exact hentries.severities j hj

end

theorem governs_tokens_iff {name : String} {place : List Step} {p : Json} :
    Governs schema severitiesSchema (.key name :: place) p ↔
      Governs schema tokensSchema place p := by
  refine (governs_key_iff rfl rfl).trans ⟨?_, fun hp => ⟨tokensSchema, .inr ⟨?_, rfl⟩, hp⟩⟩
  · rintro ⟨_, hschema | ⟨_, hschema⟩, hp⟩
    · cases hschema
    · obtain rfl := Option.some.inj hschema
      exact hp
  · exact List.not_mem_nil

/-- Of the choices for tokens one alone has a part for items. -/
theorem governs_item_iff {n : Nat} {place : List Step} {p : Json} :
    Governs schema tokensSchema (.index n :: place) p ↔
      Governs schema (schemaReference "token") place p := by
  have htoken : ¬Governs schema tokenSchema (.index n :: place) p := by
    rw [tokenSchema, governs_choice_iff]
    simp only [List.mem_cons, List.not_mem_nil, or_false, exists_eq_or_imp, exists_eq_left]
    rw [governs_index_iff rfl rfl, governs_index_iff rfl rfl]
    rintro (⟨_, h, _⟩ | ⟨_, h, _⟩) <;> cases h
  have hlist : Governs schema tokenListSchema (.index n :: place) p ↔
      Governs schema (schemaReference "token") place p := by
    refine (governs_index_iff rfl rfl).trans ⟨?_, fun hp => ⟨_, rfl, hp⟩⟩
    rintro ⟨_, hschema, hp⟩
    obtain rfl := Option.some.inj hschema
    exact hp
  have href : ¬Governs schema (schemaReference "token") (.index n :: place) p := by
    refine mt governs_reference_iff.1 ?_
    rintro ⟨_, hschema, hp⟩
    obtain rfl := Option.some.inj (definition?_token.symm.trans hschema)
    exact htoken hp
  rw [tokensSchema, governs_choice_iff]
  simp [href, hlist]

theorem declaredNames_schema :
    declaredNames schema.members = entryNames.map fun w : String => (w : Text) := rfl

theorem not_isSettings_of_isForeign {j : Json} (h : IsForeign j) : ¬IsSettings j := by
  rintro ⟨hentries⟩
  rcases h with h | ⟨m, hm, hunknown⟩
  · exact h _ rfl
  · obtain ⟨w, hw, hname⟩ := hentries.names m hm
    rw [declaredNames_schema] at hunknown
    exact hunknown (List.mem_map.2 ⟨w, hw, hname.symm⟩)

section

variable {j node : Json} {place : List Step}

theorem Faulty.leads (h : Faulty j place node) : Leads j place node := by
  cases h with
  | whole _ => exact .here j
  | entry _ hnode _ => exact .key hnode (.here _)
  | tokens hes hnode _ => exact .key hes (.key hnode (.here _))
  | item hes hjs hnode _ => exact .key hes (.key hjs (.index hnode (.here _)))

/-- The schema has just one part for the place, and the value there does not keep it. -/
theorem Faulty.exists_part (h : Faulty j place node) : ∃ part,
    (∀ p, Governs schema schema place p ↔ p = part) ∧
      ∀ depth, keeps schema (depth + 7) part node = false := by
  simp only [← Bool.not_eq_true]
  cases h with
  | whole hforeign =>
      exact ⟨schema, fun _ => governs_nil_iff,
        fun _ => keeps_schema.not.2 (not_isSettings_of_isForeign hforeign)⟩
  | @entry _ _ part _ _ hrule _ hnode =>
      exact ⟨part, fun _ => hrule.governs_iff.trans governs_nil_iff,
        fun depth => (hrule.keeps_iff depth _).not.2 hnode⟩
  | tokens _ _ hnode =>
      exact ⟨tokensSchema,
        fun _ => (EntryRule.severities.governs_iff.trans governs_tokens_iff).trans governs_nil_iff,
        fun _ => keeps_tokensSchema.not.2 hnode⟩
  | item _ _ _ hnode =>
      exact ⟨schemaReference "token",
        fun _ => ((EntryRule.severities.governs_iff.trans governs_tokens_iff).trans
          governs_item_iff).trans governs_nil_iff,
        fun _ => keeps_tokenReference.not.2 hnode⟩

theorem areTokens_of_isSettings {v : Json} {ms es : List (Text × Json)} {name : Text}
    (hk : ((Json.object ms).members.map Prod.fst).Nodup) (h : IsSettings (.object ms))
    (hes : (("severities" : Text), Json.object es) ∈ ms) (hv : (name, v) ∈ es) : AreTokens v := by
  obtain ⟨fs, hfs, hall⟩ := EntryRule.severities.of_isSettings h ((Table.mem_iff_lookup hk).1 hes)
  obtain rfl := Json.object.inj hfs
  exact (hall _ hv).2

/-- Whatever else is changed, while the value stands at the place the document is of no use. -/
theorem Faulty.stands (h : Faulty j place node) {k : Json} (hk : (k.members.map Prod.fst).Nodup)
    (hl : Leads k place node) : ¬IsSettings k := by
  intro hsettings
  cases h with
  | whole hforeign =>
      cases hl
      exact not_isSettings_of_isForeign hforeign hsettings
  | entry hrule _ hnode =>
      cases hl with
      | key hmem hhere =>
          cases hhere
          exact hnode (hrule.of_isSettings hsettings ((Table.mem_iff_lookup hk).1 hmem))
  | tokens _ _ hnode =>
      cases hl with
      | key hmem hl =>
          cases hl with
          | key hes hhere =>
              cases hhere
              exact hnode (areTokens_of_isSettings hk hsettings hmem hes)
  | item _ _ _ hnode =>
      cases hl with
      | key hmem hl =>
          cases hl with
          | key hes hl =>
              cases hl with
              | index hitem hhere =>
                  cases hhere
                  cases areTokens_of_isSettings hk hsettings hmem hes with
                  | one h => exact not_isToken_array h
                  | list h => exact hnode (h _ (List.mem_of_getElem? hitem))

end

/-! ## The place of a complaint -/

section

variable {c : Complaint} {entries : List (Value × Value)}

theorem place_of_truthComplaint? {name : String} (h : truthComplaint? name entries = some c) :
    c.place = [.key name] := by
  rw [truthComplaint?] at h
  split at h
  · cases h
  · cases h
  · obtain rfl := Option.some.inj h
    rfl

theorem place_of_presetComplaint? (h : presetComplaint? entries = some c) :
    c.place = [.key "preset"] := by
  rw [presetComplaint?] at h
  split at h
  · cases h
  · cases h
  · split at h
    · cases h
    · obtain rfl := Option.some.inj h
      rfl
  · obtain rfl := Option.some.inj h
    rfl

theorem place_of_wordsComplaint? (h : wordsComplaint? entries = some c) :
    c.place = [.key "severities"] := by
  rw [wordsComplaint?] at h
  split at h
  · cases h
  · split at h
    · obtain ⟨e, _, rfl⟩ := Option.map_eq_some_iff.1 h
      rfl
    · obtain rfl := Option.some.inj h
      rfl

theorem greater_eq_some {best? : Option (String × Complaint)} {name : String}
    {c? : Option Complaint} {b : String × Complaint} (h : greater best? name c? = some b) :
    best? = some b ∨ c? = some b.2 := by
  unfold greater at h
  split at h
  · exact .inl h
  · obtain rfl := Option.some.inj h
    exact .inr rfl
  · split at h
    · obtain rfl := Option.some.inj h
      exact .inr rfl
    · exact .inl h

/-- Whichever complaint is the greatest, it is one of them. -/
theorem exists_of_severitiesComplaint? (h : severitiesComplaint? entries = some c) :
    ∃ e ∈ severityEntries entries, tokensComplaint? (toString e.1.display) e.2 = some c := by
  obtain ⟨b, hfold, rfl⟩ := Option.map_eq_some_iff.1 h
  suffices hsome : ∀ (es : List (Value × Value)) (best? : Option (String × Complaint)),
      es.foldl (fun best? e => greater best? (toString e.1.display)
        (tokensComplaint? (toString e.1.display) e.2)) best? = some b →
        best? = some b ∨ ∃ e ∈ es, tokensComplaint? (toString e.1.display) e.2 = some b.2 by
    exact (hsome _ _ hfold).resolve_left (by simp)
  intro es
  induction es with
  | nil => exact fun best? hbest => .inl hbest
  | cons e es ih =>
      intro best? hbest
      rcases ih _ hbest with hgreater | ⟨f, hf, hc⟩
      · exact (greater_eq_some hgreater).imp_right fun hc => ⟨e, List.mem_cons_self, hc⟩
      · exact .inr ⟨f, List.mem_cons_of_mem e hf, hc⟩

/-- The item that is told of is no token. -/
theorem exists_item_of_itemFlaw? {js : List Json} {k n : Nat} {f : Flaw}
    (h : itemFlaw? k (Value.ofJsons js) = some (n, f)) :
    ∃ i node, n = k + i ∧ js[i]? = some node ∧ ¬IsToken node := by
  induction js generalizing k with
  | nil => cases h
  | cons j js ih =>
      rw [Value.ofJsons, itemFlaw?] at h
      cases hj : tokenFlaw? (Value.ofJson j) with
      | some g =>
          rw [hj] at h
          obtain ⟨rfl, rfl⟩ := Prod.mk.inj (Option.some.inj h)
          refine ⟨0, j, rfl, rfl, fun htoken => ?_⟩
          cases hj.symm.trans (tokenFlaw?_eq_none_iff.2 htoken)
      | none =>
          rw [hj] at h
          obtain ⟨i, node, rfl, hnode, htoken⟩ := ih h
          exact ⟨i + 1, node, by omega, hnode, htoken⟩

theorem place_of_tokensComplaint? {name : String} {j : Json}
    (h : tokensComplaint? name (Value.ofJson j) = some c) :
    (c.place = [.key "severities", .key name] ∧ ¬AreTokens j) ∨
      ∃ js n node, j = .array js ∧ js[n]? = some node ∧ ¬IsToken node ∧
        c.place = [.key "severities", .key name, .index n] := by
  have htokens : ¬AreTokens j := by
    rw [← @tokensComplaint?_eq_none_iff name, h]
    simp
  rw [tokensComplaint?, Value.content_ofJson] at h
  split at h
  · rename_i vs hvs
    obtain ⟨⟨n, f⟩, hitem, rfl⟩ := Option.map_eq_some_iff.1 h
    cases j with
    | array js =>
        obtain rfl := Value.list.inj hvs
        obtain ⟨i, node, rfl, hnode, htoken⟩ := exists_item_of_itemFlaw? hitem
        exact .inr ⟨js, i, node, rfl, hnode, htoken, by rw [Nat.zero_add]⟩
    | _ => cases hvs
  · obtain ⟨f, _, rfl⟩ := Option.map_eq_some_iff.1 h
    exact .inl ⟨rfl, htokens⟩

end

section

variable {ms : List (Text × Json)} {c : Complaint}

theorem faulty_of_entry {name : String} {part : Json} {P : Json → Prop}
    (hrule : EntryRule name part P) (hplace : c.place = [.key name])
    (h : ¬∀ j, ms.lookup (name : Text) = some j → P j) :
    ∃ node, Faulty (.object ms) c.place node := by
  simp only [not_forall] at h
  obtain ⟨node, hnode, hP⟩ := h
  exact ⟨node, hplace ▸ .entry hrule (mem_of_lookup hnode) hP⟩

theorem exists_of_mem_severityEntries {e : Value × Value}
    (he : e ∈ severityEntries (Value.ofMembers ms)) :
    ∃ es name node, ms.lookup ("severities" : Text) = some (.object es) ∧ (name, node) ∈ es ∧
      e = (.text name, Value.ofJson node) := by
  cases hlookup : ms.lookup ("severities" : Text) with
  | none =>
      rw [severityEntries, Value.get?_ofMembers, hlookup] at he
      cases he
  | some j =>
      cases j with
      | object es =>
          rw [severityEntries_ofMembers hlookup, Value.ofMembers_eq_map] at he
          obtain ⟨⟨name, node⟩, hnode, rfl⟩ := List.mem_map.1 he
          exact ⟨es, name, node, rfl, hnode, rfl⟩
      | _ =>
          rw [severityEntries, Value.get?_ofMembers, hlookup] at he
          cases he

theorem faulty_of_severitiesComplaint? (hwords : wordsComplaint? (Value.ofMembers ms) = none)
    (h : severitiesComplaint? (Value.ofMembers ms) = some c) :
    ∃ node, Faulty (.object ms) c.place node := by
  obtain ⟨e, he, hc⟩ := exists_of_severitiesComplaint? h
  obtain ⟨w, _, hkey⟩ := exists_text_of_isAmong (isAmong_of_wordsComplaint? hwords e he)
  obtain ⟨es, name, tokens, hes, htokens, rfl⟩ := exists_of_mem_severityEntries he
  obtain rfl : name = .ofString w := Value.text.inj hkey
  have hes := mem_of_lookup hes
  -- The place spells the key as it is displayed, and a severity word is displayed as it is.
  have hname : toString (Value.text (.ofString w)).display = w := Text.toString_ofString w
  rw [hname] at hc
  rcases place_of_tokensComplaint? hc with
    ⟨hplace, hnone⟩ | ⟨js, n, node, rfl, hnode, hnone, hplace⟩
  · exact ⟨tokens, hplace ▸ .tokens hes htokens hnone⟩
  · exact ⟨node, hplace ▸ .item hes htokens hnode hnone⟩

theorem isForeign_object_iff : IsForeign (.object ms) ↔ ¬(((Value.ofMembers ms).map
    Prod.fst).filter fun k => !isAmong entryNames k).isEmpty = true := by
  have hnames (m : Text × Json) :
      m.1 ∉ declaredNames schema.members ↔ ¬∃ w ∈ entryNames, m.1 = ↑w := by
    simp only [declaredNames_schema, List.mem_map, @eq_comm _ _ m.1]
  simp only [unknown_isEmpty_iff, not_forall, exists_prop, IsForeign, hnames]
  exact ⟨fun h => h.resolve_left fun h => h ms rfl, .inr⟩

/-- The complaint is about something that is wrong by itself. -/
theorem exists_faulty {j : Json} (h : complaint? (Value.ofJson j) = some c) :
    ∃ node, Faulty j c.place node := by
  cases j with
  | object ms =>
      simp only [complaint?, Value.ofJson, Value.content] at h
      split at h
      · simp only [Option.orElse_eq_orElse, Option.orElse_eq_or, Option.or_eq_some_iff] at h
        rcases h with h | ⟨_, h | ⟨hwords, h | ⟨_, h | ⟨_, h⟩⟩⟩⟩
        · exact faulty_of_entry .warnings (place_of_truthComplaint? h)
            (truthComplaint?_eq_none_iff.not.1 (h.trans_ne (Option.some_ne_none c)))
        · exact faulty_of_entry .severities (place_of_wordsComplaint? h)
            (severities_eq_none_iff.not.1 fun hnone => h.trans_ne (Option.some_ne_none c) hnone.1)
        · exact faulty_of_entry .preset (place_of_presetComplaint? h)
            (presetComplaint?_eq_none_iff.not.1 (h.trans_ne (Option.some_ne_none c)))
        · exact faulty_of_entry .lints (place_of_truthComplaint? h)
            (truthComplaint?_eq_none_iff.not.1 (h.trans_ne (Option.some_ne_none c)))
        · exact faulty_of_severitiesComplaint? hwords h
      · obtain rfl := Option.some.inj h
        exact ⟨_, .whole (isForeign_object_iff.2 ‹_›)⟩
  | _ =>
      obtain rfl := Option.some.inj h
      exact ⟨_, .whole (.inl fun ms => by simp)⟩

/-- The whole document is pointed at just where it is foreign. -/
theorem place_eq_nil_iff {j : Json} (h : complaint? (Value.ofJson j) = some c) :
    c.place = [] ↔ IsForeign j := by
  constructor
  · intro hplace
    obtain ⟨node, hfaulty⟩ := exists_faulty h
    rw [hplace] at hfaulty
    cases hfaulty
    assumption
  · intro hforeign
    cases j with
    | object ms =>
        simp only [complaint?, Value.ofJson, Value.content] at h
        rw [if_neg (isForeign_object_iff.1 hforeign)] at h
        obtain rfl := Option.some.inj h
        rfl
    | _ =>
        obtain rfl := Option.some.inj h
        rfl

theorem Faulty.mem_entryNames {j node : Json} {name : String} {place : List Step}
    (h : Faulty j (.key name :: place) node) : name ∈ entryNames := by
  cases h with
  | entry hrule _ _ => cases hrule <;> decide
  | tokens _ _ _ => decide
  | item _ _ _ _ => decide

/-- No place within a document is spelt as the whole of it. -/
theorem placeText_eq_root_iff {j node : Json} (h : Faulty j c.place node) :
    c.placeText = "<root>" ↔ c.place = [] := by
  rw [Complaint.placeText]
  cases hplace : c.place with
  | nil => simp
  | cons step place =>
      rw [hplace] at h
      refine iff_of_false (fun htext => ?_) (List.cons_ne_nil _ _)
      cases step with
      | index n => cases h
      | key name =>
          have hstart : name ++ "/".intercalate ("" :: place.map Step.text) = "<root>" := by
            rw [← String.intercalate_cons_append, String.append_empty]
            exact htext
          have hfirst := congrArg (List.head? ∘ String.toList) hstart
          have hletters : ∀ w ∈ entryNames, ∃ ch cs, w.toList = ch :: cs ∧ ch ≠ '<' := by
            simp [entryNames]
          obtain ⟨ch, cs, hw, hne⟩ := hletters name h.mem_entryNames
          simp [hw] at hfirst
          exact hne hfirst

end

/-- A document that is refused is refused for what stands at one place in it. The value there does
not keep the part of the schema that is for the place, so no document with the same value at the
place is read. -/
theorem complaint_place {j : Json} {path? : Option String} {e : Failure}
    (hj : (Value.ofJson j).isWritable = true) (h : ofDocument path? (.ofJson j) = .error e) :
    ∃ c node part, e = .settings ⟨path?, .complaint c⟩ ∧
      Leads j c.place node ∧ (∀ p, Governs schema schema c.place p ↔ p = part) ∧
      (∀ depth, keeps schema (depth + 7) part node = false) ∧
      (∀ k : Json, (k.members.map Prod.fst).Nodup → Leads k c.place node →
        ∀ s, ofDocument path? (.ofJson k) ≠ .ok s) ∧
      (c.placeText = "<root>" ↔ IsForeign j) := by
  cases hc : complaint? (.ofJson j) with
  | none =>
      obtain ⟨s, hs⟩ := ofDocument_of_none (isJudgeable_ofJson hj) hc
      cases (hs path?).symm.trans h
  | some c =>
      have herror := ofDocument_of_complaint (isJudgeable_ofJson hj) hc path?
      obtain rfl := Except.error.inj (herror.symm.trans h)
      obtain ⟨node, hfaulty⟩ := exists_faulty hc
      obtain ⟨part, hpart, hkeeps⟩ := hfaulty.exists_part
      refine ⟨c, node, part, rfl, hfaulty.leads, hpart, hkeeps, fun k hk hleads s hs => ?_,
        (placeText_eq_root_iff hfaulty).trans (place_eq_nil_iff hc)⟩
      exact hfaulty.stands hk hleads (complaint?_ofJson_eq_none_iff.1 (complaint?_of_ok hs))

/-- Tokens under two words are wrong, and one of the words has two that are. -/
def sampleFaults : Json := .object [("preset", .text "none"), ("severities", .object [
  ("error", .truth true), ("hide", .array [.whole 7, .text "", .null])])]

/-- One of the wrong tokens is left, at its place. -/
def sampleRest (node : Json) : Json :=
  .object [("severities", .object [("hide", .array [.text "7", node])])]

theorem complaint_place_sample : ∃ c node part,
    ofDocument none (.ofJson sampleFaults) = .error (.settings ⟨none, .complaint c⟩) ∧
    c.placeText = "severities/hide/1" ∧ Leads sampleFaults c.place node ∧
    Governs schema schema c.place part ∧ keeps schema 7 part node = false ∧
    (∀ s, ofDocument none (.ofJson (sampleRest node)) ≠ .ok s) ∧ ¬IsForeign sampleFaults := by
  have hj : (Value.ofJson sampleFaults).isWritable = true := by decide +kernel
  have hc : complaint? (.ofJson sampleFaults) =
      some ⟨[.key "severities", .key "hide", .index 1], .emptyToken⟩ := by rfl
  have herror := ofDocument_of_complaint (isJudgeable_ofJson hj) hc none
  obtain ⟨c, node, part, hfault, hleads, hpart, hkeeps, hstands, hroot⟩ := complaint_place hj herror
  obtain rfl := SettingsCause.complaint.inj (SettingsFault.mk.inj (Failure.settings.inj hfault)).2
  refine ⟨_, node, part, herror, by decide +kernel, hleads, (hpart part).2 rfl, hkeeps 0,
    hstands _ (List.nodup_singleton _) ?_, hroot.not.1 (by decide +kernel)⟩
  exact .key List.mem_cons_self (.key List.mem_cons_self (.index rfl (.here _)))

end DiagnosticCatalog.Settings
