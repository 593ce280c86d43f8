import DiagnosticCatalog.CommandLine.Transcript
import DiagnosticCatalog.Proofs.Registry.Inheritance
import DiagnosticCatalog.Proofs.Settings
import DiagnosticCatalog.Proofs.Standard
/-!
Precedence on a command line. For each issue the last override decides; without one the strictest
level that the settings give it, then the preset of the command line, then the preset of the
settings, and at last the declaration.
-/

namespace DiagnosticCatalog.CommandLine

open Registry

/-- The preset that the command line names. -/
def Invocation.presetRows (i : Invocation) : List (Int × Severity) :=
  Preset.rows (i.preset?.bind Operand.get?)

/-- What a command line with these settings leaves of an entry of the standard registry. -/
def Invocation.settled (i : Invocation) (s : Settings) (e : Entry) : Entry :=
  match standard.requested? i.overrides e.issue, standard.strictest? s.severities e.issue,
    i.presetRows.lookup e.issue.code, (Preset.rows s.preset?).lookup e.issue.code with
  | some s, _, _, _ => ⟨e.issue, .explicit s, true⟩
  | none, some s, _, _ => ⟨e.issue, .explicit s, true⟩
  | none, none, some s, _ => ⟨e.issue, .explicit s, false⟩
  | none, none, none, some s => ⟨e.issue, .explicit s, false⟩
  | none, none, none, none => ⟨e.issue, e.issue.defaultLevel, false⟩

/-- The four stages one after the other come to the same. -/
theorem settled_eq (i : Invocation) {s : Settings}
    (hs : s.severities.Pairwise fun p q => p.2 ≤ q.2) {e : Entry} (he : e = fresh e.issue) :
    standard.asked true i.overrides ((standard.asked true s.severities
      (e.preset (Preset.rows s.preset?))).preset i.presetRows) = i.settled s e := by
  have huser : e.userSet = false := congrArg Entry.userSet he
  have hfirst := Entry.preset_issue (Preset.rows s.preset?) e
  have hissue : ((standard.asked true s.severities (e.preset (Preset.rows s.preset?))).preset
      i.presetRows).issue = e.issue := by
    rw [Entry.preset_issue, asked_issue, hfirst]
  unfold Invocation.settled
  cases hoverride : standard.requested? i.overrides e.issue with
  | some t => rw [asked_of_some (hissue ▸ hoverride), hissue]
  | none =>
      rw [asked_of_none (hissue ▸ hoverride)]
      cases htoken : standard.strictest? s.severities e.issue with
      | some t =>
          rw [← requested?_eq_strictest? standard hs, ← hfirst] at htoken
          rw [asked_of_some htoken, Entry.preset_of_userSet rfl, hfirst]
      | none =>
          rw [← requested?_eq_strictest? standard hs, ← hfirst] at htoken
          rw [asked_of_none htoken]
          cases hrow : i.presetRows.lookup e.issue.code with
          | some t =>
              have huser := Entry.userSet_preset huser (Preset.rows s.preset?)
              rw [Entry.preset_of_some huser (hfirst.symm ▸ hrow), hfirst]
          | none =>
              rw [Entry.preset_of_none (hfirst.symm ▸ hrow)]
              cases hown : (Preset.rows s.preset?).lookup e.issue.code with
              | some t => rw [Entry.preset_of_some huser hown]
              | none =>
                  rw [Entry.preset_of_none hown]
                  exact he

/-! ## The stages -/

theorem configureSettings_registry {s? : Option Settings} {missed : List Text}
    (h : (configureSettings standard s?).outcome = .ok missed) :
    (configureSettings standard s?).registry =
      standard.update (standard.asked true (s?.getD .blank).severities ∘
        Entry.preset (Preset.rows (s?.getD .blank).preset?)) := by
  cases s? with
  | some s => exact applySettings_registry nodup_codes_standard addressed_standard h
  | none =>
      have hid : standard.asked true [] = id := funext fun e => asked_of_none rfl true
      change standard = standard.update (standard.asked true [] ∘ Entry.preset [])
      rw [hid, Function.id_comp, update_preset_nil]

theorem configurePreset_registry {r : Registry} (hr : (r.entries.map (·.issue.code)).Nodup)
    (ha : ∀ p : Preset, r.Addressed p.table) {preset? : Option (Operand Preset)}
    (h : (configurePreset r preset?).outcome = .ok ()) : (configurePreset r preset?).registry =
      r.update (Entry.preset (Preset.rows (preset?.bind Operand.get?))) := by
  cases preset? with
  | none => exact (update_preset_nil r).symm
  | some operand =>
      cases operand with
      | nothing => cases h
      | given p =>
          obtain ⟨n, hn, _⟩ := Run.outcome_of_map h
          exact applyPreset_registry hr (ha p) hn

/-- The state that a command line leads to, entry by entry. -/
theorem configure_entries (i : Invocation) {s? : Option Settings}
    (hs : (s?.getD .blank).severities.Pairwise fun p q => p.2 ≤ q.2) {missed : List Text}
    (h : (i.configure standard s?).outcome = .ok missed) :
    (i.configure standard s?).registry.entries =
      standard.entries.map (i.settled (s?.getD .blank)) := by
  obtain ⟨_, hsettings, h, hfirst⟩ := Run.outcome_of_andThen h
  obtain ⟨_, hpreset, h, hsecond⟩ := Run.outcome_of_andThen h
  obtain ⟨_, hbatch, _⟩ := Run.outcome_of_map h
  have hstandard := configureSettings_registry hsettings
  have hissue : ∀ e, ((standard.asked true (s?.getD .blank).severities ∘
      Entry.preset (Preset.rows (s?.getD .blank).preset?)) e).issue = e.issue := by
    intro e
    rw [Function.comp_apply, asked_issue, Entry.preset_issue]
  have hcodes := nodup_codes_standard
  rw [← codes_update hissue, ← hstandard] at hcodes
  have haddressed (p : Preset) : (configureSettings standard s?).registry.Addressed p.table :=
    hstandard ▸ (addressed_standard p).update hissue
  have hlisted := configurePreset_registry hcodes haddressed hpreset
  have hpresetissue := Entry.preset_issue (Preset.rows (i.preset?.bind Operand.get?))
  rw [← codes_update hpresetissue, ← hlisted] at hcodes
  rw [show (i.configure standard s?).registry = _ from hfirst.trans hsecond, Run.map_registry,
    configureSeverities_registry hcodes hbatch, hlisted, asked_update hpresetissue, hstandard,
    asked_update hissue, update_update, update_update]
  apply List.map_congr_left
  intro e he
  exact settled_eq i hs (fresh_build standardDeclarations e he)

theorem configureSettings_does (r : Registry) (s? : Option Settings) :
    ∃ y, (configureSettings r s?).Does r y := by
  cases s? with
  | none => exact ⟨_, .done r _⟩
  | some s => exact ⟨_, applySettings_does r s⟩

theorem configurePreset_does (r : Registry) (preset? : Option (Operand Preset)) :
    ∃ y, (configurePreset r preset?).Does r y := by
  cases preset? with
  | none => exact ⟨_, .done r _⟩
  | some operand =>
      cases operand with
      | nothing => exact ⟨_, .fail r _⟩
      | given p => exact ⟨_, (applyPreset_does r p).map _⟩

/-- However a command line ends, what it leaves has come about by writes. -/
theorem configure_commit (i : Invocation) (r : Registry) (s? : Option Settings) :
    ∃ ws, (i.configure r s?).registry = r.commit ws := by
  obtain ⟨x, hx⟩ := configureSettings_does r s?
  obtain ⟨y, hy⟩ := configurePreset_does (r.commit x.writes) i.preset?
  have hall : (i.configure r s?).Does r (x.andThen (y.andThen
      (((r.commit x.writes).commit y.writes).pieceEffect true (requestPieces i.overrides)))) := by
    unfold Invocation.configure
    refine hx.andThen fun missed => hy.andThen fun _ => Run.Does.map ?_ _
    exact configureSeverities_does _ true i.overrides
  exact ⟨_, hall.registry⟩

/-- What is told of an entry with its effective severity, as it is and as it is reported. -/
def detailWith (p : Promotion) (r : Registry) (e : Entry) (t : Severity) : Fields :=
  e.issue.fields ++ r.stateFields e t ++ [("reported_severity", .text (t.reported p).word)]

/-- The severity is looked up twice, and a fault is the same at the first and at the second time. -/
theorem detailOf_eq (p : Promotion) (r : Registry) (e : Entry) :
    detailOf p r e = (r.effective e).map (detailWith p r e) := by
  rw [detailOf, describe, reportedOf]
  cases r.effective e with
  | error f => rfl
  | ok t => rfl

theorem pairwise_loadSettings {i : Invocation} {source : FileSource} {s? : Option Settings}
    (h : i.loadSettings source = .ok s?) :
    (s?.getD .blank).severities.Pairwise fun p q => p.2 ≤ q.2 := by
  unfold Invocation.loadSettings at h
  split at h
  · obtain rfl := Except.ok.inj h
    exact .nil
  · rename_i path _
    cases hload : Settings.load source path with
    | error e =>
        rw [hload] at h
        cases h
    | ok s =>
        rw [hload] at h
        obtain rfl := Except.ok.inj h
        exact Settings.pairwise_load hload
  · cases h

theorem run_eq_perform {i : Invocation} {c : Command} (hc : i.command? = some c)
    (source : FileSource) : i.run source = i.perform c source standard := by
  -- The check is kept out of sight, or it is computed where the two sides are compared.
  have hstandard := ofDeclarations_standard
  unfold Invocation.run
  generalize ofDeclarations standardDeclarations = x at hstandard ⊢
  rw [hc, hstandard]

theorem perform_of_configure {i : Invocation} {c : Command} {source : FileSource} {r : Registry}
    {s? : Option Settings} {missed : List Text} {text : String}
    (hload : i.loadSettings source = .ok s?) (hok : (i.configure r s?).outcome = .ok missed)
    (htext : c.output (i.promotionWith s?) (i.configure r s?).registry = .ok (.ok text)) :
    ∃ errors, i.perform c source r = .ok ⟨finish i.strict missed, text, some errors⟩ := by
  simp only [Invocation.perform, hload, hok, htext]
  exact ⟨_, rfl⟩

/-- Once its settings are read and all is put into the standard registry, a command line has settled
every entry by precedence. Each issue has an effective severity and is reported with it, raised as
the flags of the command line and of the settings ask for together, and that is what the command of
the run writes from. -/
theorem configure_precedence (i : Invocation) (source : FileSource) {s? : Option Settings}
    {missed : List Text} (hload : i.loadSettings source = .ok s?)
    (hok : (i.configure standard s?).outcome = .ok missed) :
    let r := (i.configure standard s?).registry
    let s := s?.getD .blank
    let p : Promotion :=
      ⟨i.promotion.warnings || s.warningsAsErrors, i.promotion.lints || s.lintsAsErrors⟩
    r.entries = standard.entries.map (i.settled s) ∧
    (∀ e ∈ r.entries, ∃ t, r.effective e = .ok t ∧ reportedOf p r e = .ok (t.reported p) ∧
      detailOf p r e = .ok (e.issue.fields ++ r.stateFields e t ++
        [("reported_severity", .text (t.reported p).word)])) ∧
    ∀ c text, i.command? = some c → c.output p r = .ok (.ok text) →
      ∃ errors, i.run source = .ok ⟨finish i.strict missed, text, some errors⟩ := by
  intro r s p
  refine ⟨configure_entries i (pairwise_loadSettings hload) hok, ?_, ?_⟩
  · intro e he
    obtain ⟨ws, hws⟩ := configure_commit i standard s?
    have hr : r.Resolvable := by
      rw [show r = standard.commit ws from hws]
      exact resolvable_commit_build sound_standardDeclarations ws
    obtain ⟨t, ht⟩ := hr.settles e he
    have heffective := effective_of_settles hr.codes he ht
    refine ⟨t, heffective, ?_, ?_⟩
    · rw [reportedOf, heffective]
      rfl
    · rw [detailOf_eq, heffective]
      rfl
  · intro c text hc htext
    rw [run_eq_perform hc]
    exact perform_of_configure hload hok htext

def sampleInvocation : Invocation := { Invocation.blank with
  overrides := [("AddedPackage", .error), ("ParseError, AddedPackage", .info)]
  config? := some (.given "severity.json") }

def sampleSource : FileSource := fun _ => .ok
  "\x7b\x22severities\x22: \x7b\x22hide\x22: [\x22AddedPackage,AddedClass\x22]\x7d\x7d".toUTF8

def sampleSettings : Settings := ⟨none, false, false, [("AddedPackage,AddedClass", .hidden)]⟩

theorem loadSettings_sample :
    sampleInvocation.loadSettings sampleSource = .ok (some sampleSettings) := by
  have h : (sampleInvocation.loadSettings sampleSource).toOption = some (some sampleSettings) := by
    decide +kernel
  cases hload : sampleInvocation.loadSettings sampleSource with
  | error e =>
      rw [hload] at h
      cases h
  | ok s? =>
      rw [hload] at h
      exact congrArg Except.ok (Option.some.inj h)

def sampleRun : Run (List Text) := sampleInvocation.configure standard (some sampleSettings)

/-- Two issues go by the last override, the next by the settings, and the fourth as declared. -/
theorem configure_precedence_sample : (∃ missed, sampleRun.outcome = .ok missed) ∧
    (sampleRun.registry.entries.take 4).map (fun e => (e.level, e.userSet)) =
      [(.explicit .info, true), (.explicit .info, true), (.explicit .hidden, true),
        (.explicit .warning, false)] := by
  have hok : sampleRun.outcome.isOk = true := by decide +kernel
  cases hmissed : sampleRun.outcome with
  | error e =>
      rw [hmissed] at hok
      cases hok
  | ok missed =>
      obtain ⟨hentries, _⟩ := configure_precedence sampleInvocation sampleSource
        loadSettings_sample hmissed
      refine ⟨⟨missed, rfl⟩, ?_⟩
      rw [sampleRun, hentries, ← List.map_take, List.map_map]
      decide +kernel

end DiagnosticCatalog.CommandLine
