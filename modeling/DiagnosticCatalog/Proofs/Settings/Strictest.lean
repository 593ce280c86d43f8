import DiagnosticCatalog.Proofs.Registry.Batch
import DiagnosticCatalog.Proofs.Settings
import DiagnosticCatalog.Proofs.Settings.Grammar
import DiagnosticCatalog.Proofs.Standard
import DiagnosticCatalog.Value.Document
import Mathlib.Data.List.Forall2
/-!
What a settings document leaves in a registry, told by the document itself: the strictest severity
under which a token names the issue, else what the preset says of an issue that no user has set. The
order of the document has a part only in what is told of tokens that name nothing.
-/

namespace DiagnosticCatalog

namespace Settings

/-! ## What a document says -/

/-- Some word for the severity has a token with a piece that names the issue. -/
def Mentions (r : Registry) (entries : List (Value × Value)) (s : Severity) (i : Issue) : Prop :=
  ∃ e ∈ severityEntries entries, Severity.parse e.1.display = .ok s ∧
    ∃ t ∈ tokenValues e.2, r.Names t.display i

/-- The preset of the document has a row for the issue. -/
def Lists (entries : List (Value × Value)) (i : Issue) (s : Severity) : Prop :=
  ∃ p : Preset, Value.get? "preset" entries = some (.text p.name) ∧ p.table.lookup i.code = some s

/-- The pieces in the order in which they are applied: by ascending severity, and those of one
severity as they stand in the document. -/
def pieces (entries : List (Value × Value)) : List Text :=
  Severity.all.flatMap fun s =>
    let named := (severityEntries entries).filter fun e =>
      (Severity.parse e.1.display).toOption = some s
    named.flatMap fun e => (tokenValues e.2).flatMap fun t => Registry.tokenPieces t.display

/-- What becomes of an entry. -/
inductive Leaves (r : Registry) (entries : List (Value × Value)) (e : Entry) : Entry → Prop
  | mentioned {s : Severity} : Mentions r entries s e.issue →
      (∀ t, Mentions r entries t e.issue → t ≤ s) →
      Leaves r entries e ⟨e.issue, .explicit s, true⟩
  | listed {s : Severity} : (∀ t, ¬Mentions r entries t e.issue) → e.userSet = false →
      Lists entries e.issue s → Leaves r entries e ⟨e.issue, .explicit s, false⟩
  | kept : (∀ t, ¬Mentions r entries t e.issue) →
      (e.userSet = false → ∀ s, ¬Lists entries e.issue s) → Leaves r entries e e

/-! ## Settings that are read from it -/

theorem mem_orderedTokens {entries : List (Value × Value)} {v : Value} {s : Severity} :
    (v, s) ∈ orderedTokens entries ↔ ∃ e ∈ severityEntries entries,
      Severity.parse e.1.display = .ok s ∧ v ∈ tokenValues e.2 := by
  simp only [orderedTokens, tokensFor, List.mem_flatMap, List.mem_map, List.mem_filter,
    decide_eq_true_eq, toOption_eq_some, Prod.mk.injEq]
  constructor
  · rintro ⟨_, _, e, ⟨he, hs⟩, _, hv, rfl, rfl⟩
    exact ⟨e, he, hs, hv⟩
  · rintro ⟨e, he, hs, hv⟩
    exact ⟨s, Severity.mem_all s, e, ⟨he, hs⟩, v, hv, rfl, rfl⟩

theorem exists_request_iff {r : Registry} {entries : List (Value × Value)} {s : Severity}
    {i : Issue} : (∃ q ∈ (ofEntries entries).severities, q.2 = s ∧ r.Names q.1 i) ↔
      Mentions r entries s i := by
  constructor
  · rintro ⟨_, hq, rfl, hn⟩
    obtain ⟨⟨v, s⟩, hv, rfl⟩ := List.mem_map.1 hq
    obtain ⟨e, he, hs, hv⟩ := mem_orderedTokens.1 hv
    exact ⟨e, he, hs, v, hv, hn⟩
  · rintro ⟨e, he, hs, v, hv, hn⟩
    have hmem := mem_orderedTokens.2 ⟨e, he, hs, hv⟩
    exact ⟨_, List.mem_map_of_mem hmem, rfl, hn⟩

theorem requested?_ofEntries (r : Registry) (entries : List (Value × Value)) (i : Issue) :
    r.requested? (ofEntries entries).severities i =
      r.strictest? (ofEntries entries).severities i := by
  refine Registry.requested?_eq_strictest? r ?_ i
  rw [ofEntries, List.pairwise_map]
  exact pairwise_orderedTokens entries

theorem strictest_of_requested? {r : Registry} {entries : List (Value × Value)} {i : Issue}
    {s : Severity} (h : r.requested? (ofEntries entries).severities i = some s) :
    Mentions r entries s i ∧ ∀ t, Mentions r entries t i → t ≤ s := by
  rw [requested?_ofEntries, Registry.strictest?] at h
  refine ⟨exists_request_iff.1 (of_decide_eq_true (findRev?_some h).2), fun t ht => ?_⟩
  exact le_findRev? Severity.le_refl Severity.pairwise_all h t (Severity.mem_all t)
    (decide_eq_true (exists_request_iff.2 ht))

theorem not_mentions_of_requested? {r : Registry} {entries : List (Value × Value)} {i : Issue}
    (h : r.requested? (ofEntries entries).severities i = none) (t : Severity) :
    ¬Mentions r entries t i := by
  rw [requested?_ofEntries, Registry.strictest?] at h
  intro ht
  exact findRev?_eq_none.1 h t (Severity.mem_all t) (decide_eq_true (exists_request_iff.2 ht))

theorem presetOf?_eq_some {entries : List (Value × Value)} {p : Preset} :
    presetOf? entries = some p ↔ Value.get? "preset" entries = some (.text p.name) := by
  rw [presetOf?]
  constructor
  · intro h
    split at h
    · rename_i t ht
      obtain ⟨w, hw, hp⟩ := Option.bind_eq_some_iff.1 h
      rw [Preset.ofName?] at hp
      have hname : p.name = w := by simpa using List.find?_some hp
      rw [ht, hname, Text.string?_eq_some_iff.1 hw]
    · cases h
  · intro h
    rw [h]
    exact (congrArg (·.bind Preset.ofName?) (Text.string?_ofString _)).trans (Preset.ofName?_name p)

theorem lists_iff {entries : List (Value × Value)} {i : Issue} {s : Severity} :
    Lists entries i s ↔ (Preset.rows (presetOf? entries)).lookup i.code = some s := by
  simp only [Lists, ← presetOf?_eq_some]
  cases presetOf? entries with
  | none => simp [Preset.rows]
  | some p => simp [Preset.rows]

theorem leaves_ofEntries (r : Registry) (entries : List (Value × Value)) (e : Entry) :
    Leaves r entries e (r.asked true (ofEntries entries).severities
      (e.preset (Preset.rows (presetOf? entries)))) := by
  have hissue := Entry.preset_issue (Preset.rows (presetOf? entries)) e
  cases hs : r.requested? (ofEntries entries).severities e.issue with
  | some s =>
      rw [Registry.asked_of_some (hissue.symm ▸ hs), hissue]
      obtain ⟨hmention, hmost⟩ := strictest_of_requested? hs
      exact .mentioned hmention hmost
  | none =>
      have hno := not_mentions_of_requested? hs
      rw [Registry.asked_of_none (hissue.symm ▸ hs)]
      cases hu : e.userSet with
      | true =>
          rw [Entry.preset_of_userSet hu]
          exact .kept hno fun h => absurd h (by simp [hu])
      | false =>
          cases hrow : (Preset.rows (presetOf? entries)).lookup e.issue.code with
          | some s =>
              rw [Entry.preset_of_some hu hrow]
              exact .listed hno hu (lists_iff.2 hrow)
          | none =>
              rw [Entry.preset_of_none hrow]
              refine .kept hno fun _ s hs => ?_
              rw [lists_iff, hrow] at hs
              cases hs

/-- A document decides what becomes of an entry, in whatever order it says it. -/
theorem Leaves.unique {r : Registry} {entries : List (Value × Value)} {e f g : Entry}
    (hf : Leaves r entries e f) (hg : Leaves r entries e g) : f = g := by
  cases hf with
  | mentioned hs hmost =>
      cases hg with
      | mentioned ht htop => rw [Severity.le_antisymm (htop _ hs) (hmost _ ht)]
      | listed hno => exact absurd hs (hno _)
      | kept hno => exact absurd hs (hno _)
  | listed hno hu hs =>
      cases hg with
      | mentioned ht => exact absurd ht (hno _)
      | listed _ _ ht =>
          rw [lists_iff] at hs ht
          rw [Option.some.inj (hs.symm.trans ht)]
      | kept _ hkept => exact absurd hs (hkept hu _)
  | kept hno hkept =>
      cases hg with
      | mentioned ht => exact absurd ht (hno _)
      | listed _ hu ht => exact absurd ht (hkept hu _)
      | kept => rfl

end Settings

namespace Registry

/-! ## Pieces that name nothing -/

/-- Whatever there is of a preset, the tokens are applied where only levels have changed. -/
theorem exists_applySettings_eq (r : Registry) (a : Arrangement) : ∃ x : Run Unit,
    (∃ ws, x.registry = r.commit ws) ∧
      r.applySettings a = x.andThen fun r _ => r.configureSeverities a.severities true := by
  refine ⟨_, ?_, rfl⟩
  cases a.presetName? with
  | none => exact ⟨[], rfl⟩
  | some name => exact ⟨_, ((applyPresetNamed_does r name).map _).registry⟩

/-- The preset has no part in it, as it changes no names. -/
theorem missed_of_applySettings {r : Registry} {a : Arrangement} {missed : List Text}
    (h : (r.applySettings a).outcome = .ok missed) :
    missed = r.missedPieces (requestPieces a.severities) := by
  obtain ⟨x, ⟨ws, hws⟩, happly⟩ := exists_applySettings_eq r a
  rw [happly] at h
  obtain ⟨_, _, hbatch, _⟩ := Run.outcome_of_andThen h
  rw [hws] at hbatch
  rw [missed_of_configureSeverities hbatch, commit_eq_update,
    missedPieces_update (Entry.after_issue ws)]

theorem pieces_ofEntries (entries : List (Value × Value)) :
    (requestPieces (Settings.ofEntries entries).severities).map (·.1) = Settings.pieces entries := by
  simp [requestPieces, Settings.ofEntries, Settings.orderedTokens, Settings.tokensFor,
    Settings.pieces, List.map_flatMap, List.flatMap_map, List.flatMap_assoc, Function.comp_def]

theorem missedPieces_ofEntries (r : Registry) (entries : List (Value × Value)) :
    r.missedPieces (requestPieces (Settings.ofEntries entries).severities) =
      (Settings.pieces entries).filter fun p => (r.issueNamed? p).isNone := by
  rw [missedPieces, pieces_ofEntries]

/-- Only a number with too many digits among the tokens can make settings fail. -/
theorem Reached.isOk_applySettings {r : Registry} (h : Reached standardDeclarations r)
    (s : Settings) : (r.applySettings s).outcome.isOk =
      (r.pieceEffect true (requestPieces s.severities)).completes := by
  rw [(applySettings_does r s).outcome]
  cases hp : s.preset? with
  | none => simp [Operation.effect, Settings.arrangement, hp, Effect.andThen, Effect.none]
  | some p =>
      have hpreset : (r.presetEffect p.name).completes = true := by
        rw [presetEffect, Preset.ofName?_name]
        exact h.completes_preset p
      simp [Operation.effect, Settings.arrangement, hp, Effect.andThen, hpreset]

/-- In every state of the standard registry, settings that are read from a document and applied to
the end leave each entry as the document asks, and what they miss is told piece by piece. -/
theorem Reached.applySettings_leaves {r : Registry} (h : Reached standardDeclarations r)
    {path? : Option String} {v : Value} {s : Settings} (hread : Settings.ofDocument path? v = .ok s)
    {missed : List Text} (hok : (r.applySettings s).outcome = .ok missed) :
    ∃ entries, v.content = .map entries ∧
      List.Forall₂ (Settings.Leaves r entries) r.entries (r.applySettings s).registry.entries ∧
      missed = (Settings.pieces entries).filter fun p => (r.issueNamed? p).isNone := by
  obtain ⟨entries, hcontent, rfl⟩ := Settings.ofDocument_eq_ok hread
  refine ⟨entries, hcontent, ?_, ?_⟩
  · rw [applySettings_registry h.resolvable.codes h.addressed hok, update,
      List.forall₂_map_right_iff, List.forall₂_same]
    exact fun e _ => Settings.leaves_ofEntries r entries e
  · rw [missed_of_applySettings hok, ← missedPieces_ofEntries]
    rfl

/-- One issue is named under three words, another under one, and the preset lists what remains. -/
def sampleMentions : Json := .object [("preset", .text "current-compatibility"),
  ("severities", .object [("error", .text "AddedClass"), ("hidden", .text "AddedPackage,,"),
    ("hide", .array [.text "AddedPackage, AddedClass"]), ("info", .text "AddedClass")])]

def sampleRead : Settings := ⟨some .current, false, false, [("AddedPackage,,", .hidden),
  ("AddedPackage, AddedClass", .hidden), ("AddedClass", .info), ("AddedClass", .error)]⟩

theorem ofDocument_sampleMentions :
    Settings.ofDocument none (.ofJson sampleMentions) = .ok sampleRead :=
  (Settings.ofDocument_eq_ofEntries (by decide +kernel) (by decide +kernel) rfl none).trans
    (congrArg Except.ok (by decide +kernel))

/-- Two empty pieces are all that is missed. -/
theorem Reached.applySettings_leaves_sample :
    (sampleStandard.applySettings sampleRead).outcome.toOption =
      some (["", ""] : List Text) ∧
    ∃ entries, (Value.ofJson sampleMentions).content = .map entries ∧
      List.Forall₂ (Settings.Leaves sampleStandard entries) sampleStandard.entries
        (sampleStandard.applySettings sampleRead).registry.entries := by
  have hok : (sampleStandard.applySettings sampleRead).outcome.isOk = true := by
    rw [reached_sampleStandard.isOk_applySettings]
    decide +kernel
  obtain ⟨missed, hmissed⟩ := exists_of_isOk hok
  obtain ⟨entries, hcontent, hleaves, hpieces⟩ :=
    reached_sampleStandard.applySettings_leaves ofDocument_sampleMentions hmissed
  refine ⟨?_, entries, hcontent, hleaves⟩
  obtain rfl := Value.map.inj hcontent
  rw [hmissed, hpieces]
  decide +kernel

end Registry

end DiagnosticCatalog
