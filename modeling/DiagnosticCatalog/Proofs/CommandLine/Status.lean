import DiagnosticCatalog.Proofs.CommandLine.Row
import DiagnosticCatalog.Proofs.Registry.Failure
import DiagnosticCatalog.Proofs.Settings.Load
import DiagnosticCatalog.Proofs.Settings.Strictest
/-!
How a run ends. With no command, with settings that are refused, and with an issue to show that there
is not, it ends in an error and writes nothing; else strict checking finds a violation just if some
piece of a token, in the settings or on the command line, names no issue. Apart from that only what
is handed on from reading the settings, a number with too many digits and an option with nothing for
its value keep a run from an end.
-/

namespace DiagnosticCatalog.CommandLine

open Registry

/-- Failures that come out of a run. -/
inductive Escapes : Failure → Prop
  | overlong (e : Decimal.Overlong) : Escapes (.overlong e)
  | scalar (e : ScalarFault) : Escapes (.scalar e)
  | path : Escapes .path
  | encoding : Escapes .encoding
  | noPath : Escapes .noPath
  | noPreset : Escapes .noPreset

/-! ## Settings -/

theorem escapes_of_handsOn {source : FileSource} {path : String} {f : Failure}
    (h : Settings.HandsOn source path f) : Escapes f := by
  cases h with
  | path _ => exact .path
  | encoding _ _ => exact .encoding
  | digits _ _ _ _ _ => exact .overlong _
  | scalar _ _ _ _ => exact .scalar _
  | number _ _ _ _ _ => exact .overlong _

theorem escapes_of_load {source : FileSource} {path : String} {f : Failure}
    (h : Settings.load source path = .error f) (hf : ∀ e, f ≠ .settings e) : Escapes f := by
  rcases Settings.isAnswer_or_handsOn source path with hanswer | ⟨e, he⟩
  · rw [h] at hanswer
    cases hanswer
    exact absurd rfl (hf _)
  · obtain rfl := Except.error.inj (h.symm.trans he.load)
    exact escapes_of_handsOn he

theorem escapes_of_loadSettings {i : Invocation} {source : FileSource} {f : Failure}
    (h : i.loadSettings source = .error f) (hf : ∀ e, f ≠ .settings e) : Escapes f := by
  unfold Invocation.loadSettings at h
  split at h
  · cases h
  · rename_i path _
    cases hload : Settings.load source path with
    | error e =>
        rw [hload] at h
        obtain rfl := Except.error.inj h
        exact escapes_of_load hload hf
    | ok s =>
        rw [hload] at h
        cases h
  · obtain rfl := Except.error.inj h
    exact .noPath

/-! ## Configuration -/

theorem isOk_configureSeverities (r : Registry) (batch : List (Text × Severity)) (userSet : Bool) :
    (r.configureSeverities batch userSet).outcome.isOk = true ↔
      ∀ q ∈ requestPieces batch, ¬r.Stops q.1 := by
  rw [configureSeverities, Run.outcome_noting, applyBatch_eq, isOk_applyEach]

theorem overlong_of_configureSeverities {r : Registry} {batch : List (Text × Severity)}
    {userSet : Bool} {f : Failure} (h : (r.configureSeverities batch userSet).outcome = .error f) :
    ∃ e, f = .overlong e := by
  rw [configureSeverities, Run.outcome_noting, applyBatch_eq] at h
  exact overlong_of_applyEach h

/-- What a batch misses that came to its end: each piece is looked up and names no issue. Levels
written before do not matter. -/
theorem missed_of_commit {r : Registry} {ws : List Write} {batch : List (Text × Severity)}
    {userSet : Bool} {missed : List Text}
    (h : ((r.commit ws).configureSeverities batch userSet).outcome = .ok missed) :
    missed = r.missedPieces (requestPieces batch) ∧ ∀ q ∈ requestPieces batch, ¬r.Stops q.1 := by
  have hok : ((r.commit ws).configureSeverities batch userSet).outcome.isOk = true := by rw [h]; rfl
  constructor
  · rw [missed_of_configureSeverities h, commit_eq_update, missedPieces_update (Entry.after_issue ws)]
  · intro q hq
    rw [← stops_commit r ws]
    exact (isOk_configureSeverities _ _ _).1 hok q hq

theorem missed_of_configureSettings {r : Registry} {s? : Option Settings} {missed : List Text}
    (h : (configureSettings r s?).outcome = .ok missed) :
    missed = r.missedPieces (requestPieces (s?.getD .blank).severities) ∧
      ∀ q ∈ requestPieces (s?.getD .blank).severities, ¬r.Stops q.1 := by
  cases s? with
  | none =>
      obtain rfl := Except.ok.inj h
      exact ⟨rfl, List.forall_mem_nil _⟩
  | some s =>
      obtain ⟨x, ⟨ws, hws⟩, happly⟩ := exists_applySettings_eq r s
      rw [configureSettings, happly] at h
      obtain ⟨_, _, hbatch, _⟩ := Run.outcome_of_andThen h
      rw [hws] at hbatch
      exact missed_of_commit hbatch

/-- A command line misses what its settings miss, and then what its overrides miss. -/
theorem missed_of_configure {i : Invocation} {r : Registry} {s? : Option Settings}
    {missed : List Text} (h : (i.configure r s?).outcome = .ok missed) :
    missed = r.missedPieces (requestPieces ((s?.getD .blank).severities ++ i.overrides)) ∧
      ∀ q ∈ requestPieces ((s?.getD .blank).severities ++ i.overrides), ¬r.Stops q.1 := by
  obtain ⟨_, hsettings, h, _⟩ := Run.outcome_of_andThen h
  obtain ⟨_, _, h, _⟩ := Run.outcome_of_andThen h
  obtain ⟨_, hbatch, rfl⟩ := Run.outcome_of_map h
  obtain ⟨x, hx⟩ := configureSettings_does r s?
  obtain ⟨y, hy⟩ := configurePreset_does (r.commit x.writes) i.preset?
  rw [hx.registry, hy.registry, ← commit_append] at hbatch
  obtain ⟨hfirst, hstops⟩ := missed_of_configureSettings hsettings
  obtain ⟨hsecond, hstops'⟩ := missed_of_commit hbatch
  rw [requestPieces_append, hfirst, hsecond]
  refine ⟨?_, List.forall_mem_append.2 ⟨hstops, hstops'⟩⟩
  simp only [missedPieces, List.map_append, List.filter_append]

theorem missedPieces_ne_nil_iff {r : Registry} {batch : List (Text × Severity)}
    (h : ∀ q ∈ requestPieces batch, ¬r.Stops q.1) : r.missedPieces (requestPieces batch) ≠ [] ↔
      ∃ q ∈ batch, ∃ piece ∈ tokenPieces q.1, r.named piece = .ok none := by
  have hmissed : ∀ q ∈ requestPieces batch,
      (r.issueNamed? q.1).isNone = true ↔ r.named q.1 = .ok none := by
    intro q hq
    obtain ⟨e?, he⟩ := exists_of_isOk (isOk_named_iff.2 (h q hq))
    cases e? <;> simp [issueNamed?, he]
  rw [missedPieces, Ne, List.filter_eq_nil_iff, List.forall_mem_map]
  constructor
  · intro hne
    obtain ⟨q, hq⟩ := not_forall.1 hne
    obtain ⟨hq, hnone⟩ := Classical.not_imp.1 hq
    obtain ⟨token, htoken, hcut⟩ := List.mem_flatMap.1 hq
    obtain ⟨piece, hpiece, rfl⟩ := List.mem_map.1 hcut
    exact ⟨token, htoken, piece, hpiece, (hmissed _ hq).1 (not_not.1 hnone)⟩
  · rintro ⟨token, htoken, piece, hpiece, hnone⟩ hall
    have hq : (piece, token.2) ∈ requestPieces batch :=
      List.mem_flatMap.2 ⟨token, htoken, List.mem_map_of_mem hpiece⟩
    exact hall _ hq ((hmissed _ hq).2 hnone)

section

variable {r : Registry} (h : Reached standardDeclarations r)

include h

theorem overlong_of_configureSettings {s? : Option Settings} {f : Failure}
    (hf : (configureSettings r s?).outcome = .error f) : ∃ e, f = .overlong e := by
  cases s? with
  | none => cases hf
  | some s =>
      rw [configureSettings, applySettings] at hf
      rcases Run.andThen_outcome_eq_error_iff.1 hf with hpreset | ⟨_, _, hbatch⟩
      · exfalso
        cases hp : s.preset? with
        | none =>
            simp only [Settings.arrangement, hp, Option.map_none] at hpreset
            cases hpreset
        | some p =>
            obtain ⟨n, hn, _⟩ := h.applyPreset_leaves p
            simp only [Settings.arrangement, hp, Option.map_some, applyPresetNamed_name] at hpreset
            cases hn.symm.trans (Run.map_outcome_eq_error_iff.1 hpreset)
      · exact overlong_of_configureSeverities hbatch

theorem reached_configureSettings (s? : Option Settings) :
    Reached standardDeclarations (configureSettings r s?).registry := by
  cases s? with
  | none => exact h
  | some s => exact h.perform (.applySettings s)

theorem escapes_of_configurePreset {preset? : Option (Operand Preset)} {f : Failure}
    (hf : (configurePreset r preset?).outcome = .error f) : Escapes f := by
  cases preset? with
  | none => cases hf
  | some operand =>
      cases operand with
      | nothing =>
          obtain rfl := Except.error.inj hf
          exact .noPreset
      | given p =>
          obtain ⟨n, hn, _⟩ := h.applyPreset_leaves p
          cases hn.symm.trans (Run.map_outcome_eq_error_iff.1 hf)

theorem escapes_of_configure {i : Invocation} {s? : Option Settings} {f : Failure}
    (hf : (i.configure r s?).outcome = .error f) : Escapes f := by
  rcases Run.andThen_outcome_eq_error_iff.1 hf with hsettings | ⟨_, _, hf⟩
  · obtain ⟨e, rfl⟩ := overlong_of_configureSettings h hsettings
    exact .overlong e
  rcases Run.andThen_outcome_eq_error_iff.1 hf with hpreset | ⟨_, _, hf⟩
  · exact escapes_of_configurePreset (reached_configureSettings h s?) hpreset
  · obtain ⟨e, rfl⟩ := overlong_of_configureSeverities (Run.map_outcome_eq_error_iff.1 hf)
    exact .overlong e

end

/-! ## Output -/

theorem sublist_entries (l : Listing) (r : Registry) : (l.entries r).Sublist r.entries := by
  refine List.filter_sublist.trans ?_
  unfold inCategory
  split
  · exact .refl _
  · exact List.filter_sublist

theorem exists_effective {r : Registry} (h : r.Resolvable) {e : Entry} (he : e ∈ r.entries) :
    ∃ t, r.effective e = .ok t := by
  obtain ⟨t, ht⟩ := h.settles e he
  exact ⟨t, effective_of_settles h.codes he ht⟩

theorem exists_withSeverity {r : Registry} (h : r.Resolvable) (l : Listing) :
    ∃ xs, withSeverity r (l.entries r) = .ok xs := by
  refine exists_mapM fun e he => ?_
  obtain ⟨t, ht⟩ := exists_effective h ((sublist_entries l r).mem he)
  exact ⟨(e, t), by rw [ht]; rfl⟩

/-- What is written of a listing, in the one format and in the other. -/
theorem output_of_withSeverity {l : Listing} {r : Registry} {xs : List (Entry × Severity)}
    (h : withSeverity r (l.entries r) = .ok xs) (p : Promotion) : l.output p r = .ok
      (if l.json then canonical (.list (xs.map fun x => objectOf (detailWith p r x.1 x.2)))
        else textOf (xs.map fun x => lineOf x.1 (x.2.reported p))) := by
  rw [Listing.output, jsonRows_eq, textLines_eq, h]
  cases l.json with
  | true => rfl
  | false => exact congrArg Except.ok (String.empty_append)

/-- A fault that keeps the one format from being written keeps the other from it too. -/
theorem output_error_iff (category? : Option Category) (userSet : Bool) (p : Promotion)
    (r : Registry) (f : Failure) : Listing.output ⟨category?, userSet, true⟩ p r = .error f ↔
      Listing.output ⟨category?, userSet, false⟩ p r = .error f := by
  have hentries : Listing.entries ⟨category?, userSet, true⟩ r =
      Listing.entries ⟨category?, userSet, false⟩ r := rfl
  simp only [Listing.output, if_true, Bool.false_eq_true, if_false, jsonRows_eq, textLines_eq,
    hentries]
  cases withSeverity r (Listing.entries ⟨category?, userSet, false⟩ r) with
  | error e => rfl
  | ok xs => simp [Except.map, Except.mapError]

theorem exists_listing_output {r : Registry} (h : r.Resolvable) (p : Promotion) (l : Listing) :
    ∃ text, l.output p r = .ok text := by
  obtain ⟨xs, hxs⟩ := exists_withSeverity h l
  exact ⟨_, output_of_withSeverity hxs p⟩

theorem exists_detailOutput {r : Registry} (h : r.Resolvable) (p : Promotion) (json : Bool)
    {e : Entry} (he : e ∈ r.entries) : ∃ text, detailOutput e json p r = .ok text := by
  obtain ⟨t, ht⟩ := exists_effective h he
  rw [detailOutput, detailOf_eq, ht]
  exact ⟨_, rfl⟩

/-- What a command comes to where every issue has an effective severity. -/
inductive Writes (r : Registry) : Command → Except Failure (Except String String) → Prop
  | listing (l : Listing) (text : String) : Writes r (.list l) (.ok (.ok text))
  | issue {token : String} {e : Entry} (json : Bool) (text : String) :
      r.resolveText token = .ok (some e) → Writes r (.detail token json) (.ok (.ok text))
  | unknown {token : String} (json : Bool) :
      r.resolveText token = .ok none → Writes r (.detail token json) (.ok (.error token))
  | overlong {token : String} {e : Decimal.Overlong} (json : Bool) :
      r.resolveText token = .error e → Writes r (.detail token json) (.error (.overlong e))

theorem writes_output {r : Registry} (h : r.Resolvable) (c : Command) (p : Promotion) :
    Writes r c (c.output p r) := by
  cases c with
  | list l =>
      obtain ⟨text, htext⟩ := exists_listing_output h p l
      rw [Command.output, htext]
      exact .listing l text
  | detail token json =>
      rw [Command.output]
      rcases ht : r.resolveText token with e | _ | e
      · exact .overlong json ht
      · exact .unknown json ht
      · obtain ⟨text, htext⟩ := exists_detailOutput h p json (mem_of_resolveText ht)
        simp only [htext]
        exact .issue json text ht

/-! ## Runs -/

/-- There is nothing that the run could carry out: it has no command, its settings are refused, or it
is to show an issue that there is not. -/
inductive Invocation.Fails (i : Invocation) (source : FileSource) : Prop
  | noCommand : i.command? = none → Fails i source
  | refused {e : SettingsFault} : i.loadSettings source = .error (.settings e) → Fails i source
  | unknown {token : String} {json : Bool} : i.command? = some (.detail token json) →
      standard.resolveText token = .ok none → Fails i source

/-- Some piece of a token, in the settings or of an override, names no issue. -/
def Invocation.Misses (i : Invocation) (source : FileSource) : Prop :=
  ∃ s?, i.loadSettings source = .ok s? ∧ ∃ q ∈ (s?.getD .blank).severities ++ i.overrides,
    ∃ piece ∈ tokenPieces q.1, standard.named piece = .ok none

/-- The ways in which a run ends. -/
inductive Ends (i : Invocation) (source : FileSource) : Except Failure Transcript → Prop
  | failed (errors? : Option String) : i.Fails source → Ends i source (.ok ⟨.error, "", errors?⟩)
  | carriedOut {missed : List Text} (output : String) (errors? : Option String) :
      ¬i.Fails source → (missed ≠ [] ↔ i.Misses source) →
      Ends i source (.ok ⟨finish i.strict missed, output, errors?⟩)
  | escaped {f : Failure} : Escapes f → Ends i source (.error f)

theorem resolveText_configure_eq_none_iff {i : Invocation} {s? : Option Settings} {t : Text} :
    (i.configure standard s?).registry.resolveText t = .ok none ↔
      standard.resolveText t = .ok none := by
  obtain ⟨ws, hws⟩ := configure_commit i standard s?
  rw [hws, commit_eq_update, resolveText_update (Entry.after_issue ws)]
  rcases standard.resolveText t with e | _ | e <;> simp [Except.map]

/-- Once settings are loaded and there is a command, only an issue to show can be wanting. -/
theorem fails_iff_unknown {i : Invocation} {c : Command} (hc : i.command? = some c)
    {source : FileSource} {s? : Option Settings} (hload : i.loadSettings source = .ok s?) :
    i.Fails source ↔
      ∃ token json, c = .detail token json ∧ standard.resolveText token = .ok none := by
  constructor
  · intro h
    cases h with
    | noCommand hnone => cases hc.symm.trans hnone
    | refused herror => cases hload.symm.trans herror
    | unknown hdetail hnone => exact ⟨_, _, Option.some.inj (hc.symm.trans hdetail), hnone⟩
  · rintro ⟨token, json, rfl, hnone⟩
    exact .unknown hc hnone

theorem misses_iff {i : Invocation} {source : FileSource} {s? : Option Settings}
    (hload : i.loadSettings source = .ok s?) {missed : List Text}
    (hrun : (i.configure standard s?).outcome = .ok missed) : missed ≠ [] ↔ i.Misses source := by
  obtain ⟨rfl, hstops⟩ := missed_of_configure hrun
  rw [missedPieces_ne_nil_iff hstops]
  constructor
  · exact fun h => ⟨s?, hload, h⟩
  · rintro ⟨_, hload', h⟩
    obtain rfl := Except.ok.inj (hload.symm.trans hload')
    exact h

theorem ends_perform {i : Invocation} {c : Command} (hc : i.command? = some c)
    (source : FileSource) : Ends i source (i.perform c source standard) := by
  unfold Invocation.perform
  cases hload : i.loadSettings source with
  | error f =>
      by_cases hf : ∃ e, f = .settings e
      · obtain ⟨e, rfl⟩ := hf
        exact .failed _ (.refused hload)
      · have hescapes := escapes_of_loadSettings hload fun e he => hf ⟨e, he⟩
        cases hescapes <;> exact .escaped (by constructor)
  | ok s? =>
      have hfails := fails_iff_unknown hc hload
      simp only
      cases hrun : (i.configure standard s?).outcome with
      | error f => exact .escaped (escapes_of_configure reached_standard hrun)
      | ok missed =>
          have hmissed := misses_iff hload hrun
          obtain ⟨ws, hws⟩ := configure_commit i standard s?
          have hr : (i.configure standard s?).registry.Resolvable :=
            hws ▸ resolvable_commit_build sound_standardDeclarations ws
          have hwrites := writes_output hr c (i.promotionWith s?)
          generalize c.output (i.promotionWith s?) (i.configure standard s?).registry = x at hwrites
          cases hwrites with
          | listing l text =>
              refine .carriedOut text _ (fun h => ?_) hmissed
              obtain ⟨_, _, hdetail, _⟩ := hfails.1 h
              cases hdetail
          | @issue token e json text hfound =>
              refine .carriedOut text _ (fun h => ?_) hmissed
              obtain ⟨_, _, hdetail, hnone⟩ := hfails.1 h
              cases hdetail
              cases hfound.symm.trans (resolveText_configure_eq_none_iff.2 hnone)
          | @unknown token json hnone =>
              exact .failed _ (hfails.2 ⟨token, json, rfl, resolveText_configure_eq_none_iff.1 hnone⟩)
          | overlong json _ => exact .escaped (.overlong _)

theorem ends_run (i : Invocation) (source : FileSource) : Ends i source (i.run source) := by
  cases hc : i.command? with
  | none =>
      rw [Invocation.run, hc]
      exact .failed _ (.noCommand hc)
  | some c =>
      rw [run_eq_perform hc]
      exact ends_perform hc source

/-- A run that lists writes what the listing comes to. -/
theorem exists_run_listing {i : Invocation} {l : Listing} (hc : i.command? = some (.list l))
    {source : FileSource} {s? : Option Settings} {missed : List Text} {text : String}
    (hload : i.loadSettings source = .ok s?)
    (hok : (i.configure standard s?).outcome = .ok missed)
    (htext : l.output (i.promotionWith s?) (i.configure standard s?).registry = .ok text)
    {args : List String} (hread : Invocation.read args = .ok i) :
    ∃ t, run source args = .ok t ∧ t.output = text := by
  have houtput : Command.output (.list l) (i.promotionWith s?) (i.configure standard s?).registry =
      .ok (.ok text) := by
    rw [Command.output, htext]
    rfl
  obtain ⟨errors, hrun⟩ := perform_of_configure hload hok houtput
  refine ⟨⟨finish i.strict missed, text, some errors⟩, ?_, rfl⟩
  rw [run, hread]
  exact (run_eq_perform hc source).trans hrun

theorem code_finish (strict : Bool) (missed : List Text) :
    (finish strict missed).code = if strict = true ∧ missed ≠ [] then 1 else 0 := by
  cases strict <;> cases missed <;> rfl

/-- A run with arguments that could be read ends with the status 2 just if there is nothing that it
could carry out, and then it writes no output; else with 1 just if strict checking is asked for and
some piece names no issue; else with 0. Where it comes to no end, the failure is none of a catalog or
of a parent that it lacks, of a level, of an issue, of settings or of the name of a preset. -/
theorem run_status {args : List String} {i : Invocation} (hread : Invocation.read args = .ok i)
    (source : FileSource) :
    (∀ t, run source args = .ok t →
      (t.status.code = 2 ↔ i.Fails source) ∧
      (t.status.code = 1 ↔ ¬i.Fails source ∧ i.strict = true ∧ i.Misses source) ∧
      (t.status.code = 0 ↔ ¬i.Fails source ∧ ¬(i.strict = true ∧ i.Misses source)) ∧
      (i.Fails source → t.output = "")) ∧
    ∀ f, run source args = .error f → (∀ e, f ≠ .catalog e) ∧ (∀ parent, f ≠ .unlinked parent) ∧
      (∀ e, f ≠ .level e) ∧ (∀ e, f ≠ .issue e) ∧ (∀ e, f ≠ .settings e) ∧
      ∀ name, f ≠ .preset name := by
  have hends := ends_run i source
  have hrun : run source args = i.run source := by rw [run, hread]
  rw [hrun]
  generalize i.run source = x at hends
  cases hends with
  | failed errors? hfails =>
      refine ⟨fun t ht => ?_, fun f hf => by cases hf⟩
      obtain rfl := Except.ok.inj ht
      simp [ExitStatus.code, hfails]
  | @carriedOut missed output errors? hfails hmissed =>
      refine ⟨fun t ht => ?_, fun f hf => by cases hf⟩
      obtain rfl := Except.ok.inj ht
      rw [← hmissed]
      by_cases hstrict : i.strict = true ∧ missed ≠ [] <;> simp [code_finish, hstrict, hfails]
  | escaped hescapes =>
      constructor
      · rintro t ⟨⟩
      · intro f hf
        obtain rfl := Except.error.inj hf
        cases hescapes <;> simp

/-- The first piece is a code that no issue has. -/
def sampleStrict : Invocation := { Invocation.blank with
  overrides := [("999, AddedPackage", .hidden)]
  strict := true
  command? := some (.list ⟨none, false, true⟩) }

theorem read_sampleStrict : Invocation.read
    ["--strict", "--hide", "999, AddedPackage", "list", "--json"] = .ok sampleStrict :=
  toOption_eq_some.1 (by decide +kernel)

theorem misses_sampleStrict (source : FileSource) : sampleStrict.Misses source := by
  have hcode : standard.byCode? ((999 : Nat) : Int) = none := by decide +kernel
  have hnamed : standard.named (decimalToken 999) = .ok none := by
    rw [named, isEmpty_decimalToken, if_neg Bool.false_ne_true]
    have hfound := resolveText_decimalToken_eq standard (n := 999) (by decide +kernel)
      (byName?_standard 999)
    exact hfound.trans (congrArg Except.ok hcode)
  refine ⟨none, rfl, ("999, AddedPackage", .hidden), List.mem_singleton_self _, decimalToken 999, ?_,
    hnamed⟩
  decide +kernel

theorem isOk_sampleStrict : ∃ missed, (sampleStrict.configure standard none).outcome = .ok missed := by
  have hshort : ∀ q ∈ requestPieces sampleStrict.overrides, ¬q.1.Overlong := by decide +kernel
  have hstops : ∀ q ∈ requestPieces sampleStrict.overrides, ¬standard.Stops q.1 :=
    fun q hq hstop => hshort q hq hstop.1
  obtain ⟨missed, hmissed⟩ := exists_of_isOk
    ((isOk_configureSeverities standard sampleStrict.overrides true).2 hstops)
  refine ⟨[] ++ missed, ?_⟩
  rw [Invocation.configure, configureSettings, Run.done_andThen,
    show configurePreset standard sampleStrict.preset? = .done standard () from rfl, Run.done_andThen]
  exact Run.map_outcome_eq_ok_iff.2 ⟨missed, hmissed, rfl⟩

theorem not_fails_sampleStrict (source : FileSource) : ¬sampleStrict.Fails source := by
  have hload : sampleStrict.loadSettings source = .ok none := rfl
  rw [fails_iff_unknown rfl hload]
  rintro ⟨_, _, hdetail, _⟩
  cases hdetail

theorem exists_run_sampleStrict (source : FileSource) :
    ∃ t, run source ["--strict", "--hide", "999, AddedPackage", "list", "--json"] = .ok t := by
  obtain ⟨missed, hok⟩ := isOk_sampleStrict
  have hload : sampleStrict.loadSettings source = .ok none := rfl
  obtain ⟨ws, hws⟩ := configure_commit sampleStrict standard none
  have hr : (sampleStrict.configure standard none).registry.Resolvable :=
    hws ▸ resolvable_commit_build sound_standardDeclarations ws
  obtain ⟨text, htext⟩ := exists_listing_output hr (sampleStrict.promotionWith none) ⟨none, false, true⟩
  obtain ⟨t, ht, _⟩ := exists_run_listing rfl hload hok htext read_sampleStrict
  exact ⟨t, ht⟩

/-- The run comes to an end, and one of its two pieces names no issue. -/
theorem run_status_sample :
    ∃ t, run sampleSource ["--strict", "--hide", "999, AddedPackage", "list", "--json"] = .ok t ∧
      t.status.code = 1 := by
  obtain ⟨t, ht⟩ := exists_run_sampleStrict sampleSource
  have hstatus := ((run_status read_sampleStrict sampleSource).1 t ht).2.1
  exact ⟨t, ht, hstatus.2 ⟨not_fails_sampleStrict _, rfl, misses_sampleStrict _⟩⟩

end DiagnosticCatalog.CommandLine
