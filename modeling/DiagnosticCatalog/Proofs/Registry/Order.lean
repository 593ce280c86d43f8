import DiagnosticCatalog.Proofs.Registry.Bootstrap
import DiagnosticCatalog.Registry.Query
/-!
The order of declarations. Registries that hold the same entries in different orders find the same
under every token, and go on doing so whatever is asked of them; so of declarations in two orders
only what lists issues can tell which is which.
-/

namespace DiagnosticCatalog

open Descent

namespace Registry

/-- The same entries, perhaps in another order, and no two that a look-up might confuse. -/
structure Rearranged (r r' : Registry) : Prop where
  entries : r.entries.Perm r'.entries
  codes : (r.entries.map (·.issue.code)).Nodup
  names : (r.entries.map (·.issue.name)).Nodup
  foldedNames : (r.entries.map fun e => IssueName.fold e.issue.name).Nodup

theorem climb_noLevel {r : Registry} {e : Entry} (h : e.level = .inherit)
    (hp : r.parentOf? e.issue = none) (seen : List Int) :
    r.climb seen e = .error (.telling e.issue.code (.noLevel e.issue.title)) := by
  rw [climb, h]
  simp only
  split
  · rfl
  · rename_i hf
    cases hp.symm.trans hf

namespace Rearranged

variable {r r' : Registry} (h : r.Rearranged r')

/-! ## Look-ups -/

include h

theorem byCode?_eq (code : Int) : r.byCode? code = r'.byCode? code :=
  find?_perm h.entries h.codes code

theorem byName?_eq (name : String) : r.byName? name = r'.byName? name :=
  find?_perm h.entries h.names name

theorem byFoldedName?_eq (folded : String) : r.byFoldedName? folded = r'.byFoldedName? folded :=
  find?_perm h.entries h.foldedNames folded

theorem resolveText_eq (t : Text) : r.resolveText t = r'.resolveText t := by
  simp only [resolveText, resolveString, h.byCode?_eq, h.byName?_eq, h.byFoldedName?_eq]

theorem resolve_eq (t : Token) : r.resolve t = r'.resolve t := by
  cases t with
  | text s => exact h.resolveText_eq s
  | code n => exact congrArg Except.ok (h.byCode?_eq n)
  | truth b => rfl

theorem require_eq (ref : Ref) : r.require ref = r'.require ref := by
  cases ref <;> simp only [require, h.resolve_eq, h.byCode?_eq]

theorem contains_eq (ref : Ref) : r.contains ref = r'.contains ref := by
  cases ref <;> simp only [contains, h.resolve_eq, h.byCode?_eq]

theorem parentOf?_eq (i : Issue) : r.parentOf? i = r'.parentOf? i := by
  rw [parentOf?, parentOf?, funext h.byCode?_eq]

/-- The climb goes from entry to entry by look-ups alone. -/
theorem climb_eq (seen : List Int) (e : Entry) : r.climb seen e = r'.climb seen e := by
  induction seen, e using climb.induct r with
  | case1 seen e s hs => rw [climb_explicit hs, climb_explicit hs]
  | case2 seen e hl hp => rw [climb_noLevel hl hp, climb_noLevel hl (h.parentOf?_eq _ ▸ hp)]
  | case3 seen e hl p hp hmem =>
      rw [climb_parent hl hp, climb_parent hl (h.parentOf?_eq _ ▸ hp), if_pos hmem, if_pos hmem]
  | case4 seen e hl p hp hmem ih =>
      rw [climb_parent hl hp, climb_parent hl (h.parentOf?_eq _ ▸ hp), if_neg hmem, if_neg hmem, ih]

theorem effective_eq (e : Entry) : r.effective e = r'.effective e := h.climb_eq _ e

theorem effectiveOf_eq (ref : Ref) : r.effectiveOf ref = r'.effectiveOf ref := by
  simp only [effectiveOf, h.require_eq, h.effective_eq]

theorem describe_eq (e : Entry) : r.describe e = r'.describe e := by
  simp only [describe, stateFields, h.effective_eq, h.parentOf?_eq]

theorem ask_eq (q : Query) : r.ask q = r'.ask q := by
  cases q <;> simp only [ask, h.byCode?_eq, funext h.byName?_eq, h.resolve_eq, h.contains_eq,
    h.require_eq, h.parentOf?_eq, h.effectiveOf_eq, h.describe_eq]

/-! ## Changes -/

theorem update {g : Entry → Entry} (hg : ∀ e, (g e).issue = e.issue) :
    (r.update g).Rearranged (r'.update g) := by
  have hkeys {κ : Type} (key : Issue → κ) :
      (r.update g).entries.map (fun e => key e.issue) = r.entries.map fun e => key e.issue := by
    rw [Registry.update, List.map_map]
    exact List.map_congr_left fun e _ => congrArg key (hg e)
  exact ⟨h.entries.map g, hkeys Issue.code ▸ h.codes, hkeys Issue.name ▸ h.names,
    hkeys (fun i => IssueName.fold i.name) ▸ h.foldedNames⟩

theorem store (code : Int) (s : Severity) (userSet : Bool) :
    (r.store code s userSet).Rearranged (r'.store code s userSet) := by
  have hput := h.update (Entry.after_issue [⟨code, s, userSet⟩])
  rwa [← put_eq_update, ← put_eq_update] at hput

end Rearranged

end Registry

/-- Runs that differ in nothing but the order of the entries that they leave. -/
structure Run.Agree {α : Type} (x y : Run α) : Prop where
  registry : x.registry.Rearranged y.registry
  log : x.log = y.log
  outcome : x.outcome = y.outcome

namespace Run.Agree

variable {α β : Type} {x y : Run α}

theorem done {r r' : Registry} (h : r.Rearranged r') (a : α) : (Run.done r a).Agree (.done r' a) :=
  ⟨h, rfl, rfl⟩

theorem fail {r r' : Registry} (h : r.Rearranged r') (e : Failure) :
    (Run.fail r e : Run α).Agree (.fail r' e) := ⟨h, rfl, rfl⟩

theorem map (h : x.Agree y) (f : α → β) : (x.map f).Agree (y.map f) :=
  ⟨h.registry, h.log, congrArg (Except.map f) h.outcome⟩

theorem noting (h : x.Agree y) (notes : α → List Notice) :
    (x.noting notes).Agree (y.noting notes) := by
  unfold Run.noting
  rw [← h.outcome]
  cases hx : x.outcome with
  | error e => exact h
  | ok a => exact ⟨h.registry, congrArg (· ++ notes a) h.log, rfl⟩

theorem andThen (h : x.Agree y) {f g : Registry → α → Run β}
    (hfg : ∀ r r' a, r.Rearranged r' → (f r a).Agree (g r' a)) :
    (x.andThen f).Agree (y.andThen g) := by
  unfold Run.andThen
  rw [← h.outcome]
  cases hx : x.outcome with
  | error e => exact ⟨h.registry, h.log, rfl⟩
  | ok a =>
      have hnext := hfg _ _ a h.registry
      exact ⟨hnext.registry, congrArg₂ (· ++ ·) h.log hnext.log, hnext.outcome⟩

end Run.Agree

namespace Registry.Rearranged

variable {r r' : Registry}

theorem write (h : r.Rearranged r') (e : Entry) (s : Severity) (userSet : Bool) :
    (r.write e s userSet).Agree (r'.write e s userSet) := ⟨h.store _ s userSet, rfl, rfl⟩

theorem setLevel (h : r.Rearranged r') (ref : Ref) (level : Value) :
    (r.setLevel ref level).Agree (r'.setLevel ref level) := by
  rw [Registry.setLevel, Registry.setLevel, ← h.require_eq]
  cases requestedSeverity level with
  | error e => exact .fail h _
  | ok s =>
      cases r.require ref with
      | error e => exact .fail h _
      | ok e => exact h.write e s true

theorem applyPiece (h : r.Rearranged r') (s : Severity) (userSet : Bool) (piece : Text) :
    (r.applyPiece s userSet piece).Agree (r'.applyPiece s userSet piece) := by
  rw [Registry.applyPiece, Registry.applyPiece, ← h.resolveText_eq]
  split
  · exact .done h _
  · rcases r.resolveText piece with e | _ | e
    · exact .fail h _
    · exact .done h _
    · exact (h.write e s userSet).map _

theorem applyPieces (h : r.Rearranged r') (s : Severity) (userSet : Bool) (pieces : List Text) :
    (r.applyPieces s userSet pieces).Agree (r'.applyPieces s userSet pieces) := by
  induction pieces generalizing r r' with
  | nil => exact .done h _
  | cons p ps ih => exact (h.applyPiece s userSet p).andThen fun _ _ missed h => (ih h).map _

theorem applyBatch (h : r.Rearranged r') (userSet : Bool) (batch : List (Text × Severity)) :
    (r.applyBatch userSet batch).Agree (r'.applyBatch userSet batch) := by
  induction batch generalizing r r' with
  | nil => exact .done h _
  | cons q batch ih =>
      obtain ⟨token, s⟩ := q
      exact (h.applyPieces s userSet (tokenPieces token)).andThen fun _ _ missed h => (ih h).map _

theorem configureSeverities (h : r.Rearranged r') (batch : List (Text × Severity)) (userSet : Bool) :
    (r.configureSeverities batch userSet).Agree (r'.configureSeverities batch userSet) :=
  (h.applyBatch userSet batch).noting _

theorem setSeverity (h : r.Rearranged r') (token : Token) (level : Value) (userSet : Bool) :
    (r.setSeverity token level userSet).Agree (r'.setSeverity token level userSet) := by
  rw [Registry.setSeverity, Registry.setSeverity]
  cases request token level with
  | error e => exact .fail h e
  | ok q => exact (h.applyPieces q.2 userSet (tokenPieces q.1)).map _

theorem configure (h : r.Rearranged r') (requests : List (Token × Value)) (userSet : Bool) :
    (r.configure requests userSet).Agree (r'.configure requests userSet) := by
  rw [Registry.configure, Registry.configure]
  cases requestedBatch requests with
  | error e => exact .fail h e
  | ok batch => exact h.configureSeverities batch userSet

theorem applyTable (h : r.Rearranged r') (rows : List (Int × Severity)) :
    (r.applyTable rows).Agree (r'.applyTable rows) := by
  induction rows generalizing r r' with
  | nil => exact .done h _
  | cons row rows ih =>
      obtain ⟨code, s⟩ := row
      rw [Registry.applyTable, Registry.applyTable, ← h.require_eq]
      cases r.require (.token (.code code)) with
      | error f => exact .fail h f
      | ok e =>
          dsimp only
          split
          · exact ih h
          · exact (h.setSeverity _ _ false).andThen fun _ _ _ h => (ih h).map _

theorem applyPresetNamed (h : r.Rearranged r') (name : String) :
    (r.applyPresetNamed name).Agree (r'.applyPresetNamed name) := by
  rw [Registry.applyPresetNamed, Registry.applyPresetNamed]
  cases Preset.find name with
  | error e => exact .fail h e
  | ok p => exact (h.applyTable p.table).noting _

theorem applySettings (h : r.Rearranged r') (a : Arrangement) :
    (r.applySettings a).Agree (r'.applySettings a) := by
  rw [Registry.applySettings, Registry.applySettings]
  refine Run.Agree.andThen ?_ fun _ _ _ h => h.configureSeverities a.severities true
  cases a.presetName? with
  | none => exact .done h ()
  | some name => exact (h.applyPresetNamed name).map _

theorem perform (h : r.Rearranged r') (op : Operation) : (r.perform op).Agree (r'.perform op) := by
  cases op with
  | setLevel ref level => exact (h.setLevel ref level).map _
  | setSeverity token level userSet => exact (h.setSeverity token level userSet).map _
  | configure requests userSet => exact (h.configure requests userSet).map _
  | applyPreset name => exact (h.applyPresetNamed name).map _
  | applySettings a => exact (h.applySettings a).map _
  | reset =>
      have hreset : r.reset.Agree r'.reset := ⟨h.update fun _ => rfl, rfl, rfl⟩
      exact hreset.map _

theorem call (h : r.Rearranged r') (c : Call) : (r.call c).Agree (r'.call c) := by
  cases c with
  | ask q => exact ⟨h, rfl, congrArg (Except.map Sum.inl) (h.ask_eq q)⟩
  | perform op => exact (h.perform op).map _

/-- Every call of a session comes to the same on both sides. -/
theorem session (h : r.Rearranged r') (cs : List Call) :
    List.Forall₂ Run.Agree (r.session cs) (r'.session cs) := by
  induction cs generalizing r r' with
  | nil => exact .nil
  | cons c cs ih => exact .cons (h.call c) (ih (h.call c).registry)

end Registry.Rearranged

/-! ## Declarations -/

namespace Declaration

variable {ds ds' : List Declaration}

theorem Rooted.mono (hsub : ∀ d ∈ ds, d ∈ ds') {d : Declaration} (h : Rooted ds d) :
    Rooted ds' d := by
  induction h with
  | level hs => exact .level hs
  | parent hd hp hmem _ ih => exact .parent hd hp (hsub _ hmem) ih

theorem Acceptable.perm (hperm : ds.Perm ds') (h : Acceptable ds) : Acceptable ds' := by
  have hmem {d : Declaration} : d ∈ ds' → d ∈ ds := hperm.mem_iff.2
  exact {
    codes := (hperm.map _).nodup_iff.1 h.codes
    current := fun d hd => h.current d (hmem hd)
    identifiers := (hperm.map _).nodup_iff.1 h.identifiers
    names := (hperm.map _).nodup_iff.1 h.names
    parentless := fun d hd => h.parentless d (hmem hd)
    rooted := fun d hd hl => (h.rooted d (hmem hd) hl).mono fun d => hperm.mem_iff.1 }

theorem Sound.perm (hperm : ds.Perm ds') (h : Sound ds) : Sound ds' :=
  sound_iff_acceptable.2 ((sound_iff_acceptable.1 h).perm hperm)

end Declaration

namespace Registry

variable {ds ds' : List Declaration}

/-- Parents are found wherever they are declared. -/
theorem issueOf_perm (hperm : ds.Perm ds') (h : (ds.map (·.identifier)).Nodup) :
    issueOf ds = issueOf ds' := by
  funext d
  have hfind : Declaration.find? ds = Declaration.find? ds' := funext (find?_perm hperm h)
  rw [issueOf, issueOf, hfind]

theorem rearranged_build (hperm : ds.Perm ds') (hs : Declaration.Sound ds) :
    (build ds).Rearranged (build ds') := by
  have hkeys {κ : Type} (key : Issue → κ) :
      (build ds).entries.map (fun e => key e.issue) = (ds.map (issueOf ds)).map key :=
    map_entries_commit_build [] key
  constructor
  case entries =>
    rw [build, build, issueOf_perm hperm hs.identifiers]
    exact hperm.map _
  case codes => exact hkeys Issue.code ▸ Index.nodup_codes_issues hs
  case names => exact hkeys Issue.name ▸ Index.nodup_names_issues hs
  case foldedNames =>
    exact hkeys (fun i => IssueName.fold i.name) ▸ Index.nodup_foldedNames_issues hs

/-- Declarations that the check accepts are accepted in any order. Whatever is asked of the
registries of two orders, call by call both give the same answer or failure and make the same known,
and every code stands for the same issue with the same level and mark; only the order in which they
hold their entries is their own. -/
theorem session_perm (hperm : ds.Perm ds') (h : Declaration.check ds = .ok ()) :
    Declaration.check ds' = .ok () ∧ ∃ r r', ofDeclarations ds = .ok r ∧
      ofDeclarations ds' = .ok r' ∧ (∀ code, r.byCode? code = r'.byCode? code) ∧
      r.entries.Perm r'.entries ∧
      ∀ calls, List.Forall₂ (fun x y => x.outcome = y.outcome ∧ x.log = y.log ∧
        (∀ code, x.registry.byCode? code = y.registry.byCode? code) ∧
        x.registry.entries.Perm y.registry.entries) (r.session calls) (r'.session calls) := by
  have hs := Declaration.check_eq_ok_iff.1 h
  have hs' := hs.perm hperm
  have hstart := rearranged_build hperm hs
  refine ⟨Declaration.check_eq_ok_iff.2 hs', build ds, build ds',
    ofDeclarations_eq_ok_iff.2 ⟨hs, rfl⟩, ofDeclarations_eq_ok_iff.2 ⟨hs', rfl⟩,
    hstart.byCode?_eq, hstart.entries, fun calls => (hstart.session calls).imp fun x y hxy => ?_⟩
  exact ⟨hxy.outcome, hxy.log, hxy.registry.byCode?_eq, hxy.registry.entries⟩

/-- The preset fails at a code that is no issue's, after it has written to one that is. -/
def sampleCalls : List Call := [
  .ask (.resolve (.text "ADDEDCLASS")),
  .perform (.setLevel (.token (.text " 30 ")) (.text "warn")),
  .perform (.applyPreset "current-compatibility"),
  .ask (.effective (.token (.code 3))),
  .ask (.describe (.token (.text "RemovedClass")))]

theorem session_perm_sample :
    Declaration.check forwardDeclarations = .ok () ∧
      List.Forall₂ (fun x y => x.outcome = y.outcome)
        ((build sampleDeclarations).session sampleCalls)
        ((build forwardDeclarations).session sampleCalls) := by
  have hcheck : Declaration.check sampleDeclarations = .ok () := by decide +kernel
  obtain ⟨hforward, r, r', hr, hr', _, _, h⟩ :=
    session_perm (List.reverse_perm sampleDeclarations).symm hcheck
  obtain ⟨_, rfl⟩ := ofDeclarations_eq_ok_iff.1 hr
  obtain ⟨_, rfl⟩ := ofDeclarations_eq_ok_iff.1 hr'
  exact ⟨hforward, (h sampleCalls).imp fun _ _ hxy => hxy.1⟩

end Registry

end DiagnosticCatalog
