import DiagnosticCatalog.Proofs.Registry.Inheritance
/-!
What a registry finds. Declarations that the check accepts are set up without loss: the indices are
whole, every parent is linked, and in each state after a history an issue is found under its own code
and name and no other, its parent is the issue of the declaration that its own one names, and a
retired code finds nothing.
-/

namespace DiagnosticCatalog

open Descent

/-- The issue is made of the declaration. Which parent it has is a matter of the registry. -/
structure Issue.StandsFor (i : Issue) (d : Declaration) : Prop where
  code : i.code = d.code
  name : i.name = IssueName.derive d.identifier
  declaredId : i.declaredId = d.identifier
  defaultLevel : i.defaultLevel = d.level
  category : i.category = d.category
  rule? : i.rule? = d.rule?
  explanation? : i.explanation? = d.explanation?

namespace Registry

/-- The registry serves the declarations, and the indices that it was set up with agree with it. -/
structure Faithful (ds : List Declaration) (x : Index) (r : Registry) : Prop where
  issues : List.Forall₂ Issue.StandsFor r.issues ds
  byCode? : ∀ c e, r.byCode? c = some e ↔ e ∈ r.entries ∧ e.issue.code = c
  byName? : ∀ n e, r.byName? n = some e ↔ e ∈ r.entries ∧ e.issue.name = n
  byFoldedName? : ∀ e ∈ r.entries, r.byFoldedName? (IssueName.fold e.issue.name) = some e
  indexIssues : x.issues = r.issues
  indexByCode : ∀ c, x.byCode.get? c = (r.byCode? c).map (·.issue)
  indexByName : ∀ n, x.byName.get? n = (r.byName? n).map (·.issue)
  indexByFoldedName : ∀ n, x.byFoldedName.get? n = (r.byFoldedName? n).map (·.issue)
  parentless : ∀ d ∈ ds, ∀ e ∈ r.entries, e.issue.StandsFor d →
    (r.parentOf? e.issue = none ↔ d.parent? = none)
  parents : ∀ d ∈ ds, ∀ e ∈ r.entries, e.issue.StandsFor d → ∀ p, d.parent? = some p →
    ∃ q ∈ ds, ∃ f, q.identifier = p ∧ f.issue.StandsFor q ∧ r.parentOf? e.issue = some f
  retired : ∀ row ∈ retiredCodes, r.byCode? row.1 = none ∧ r.resolve (.code row.1) = .ok none

theorem standsFor_issueOf (ds : List Declaration) (d : Declaration) :
    (issueOf ds d).StandsFor d := ⟨rfl, rfl, rfl, rfl, rfl, rfl, rfl⟩

/-- A search among issues is one among their entries. -/
theorem find?_issues (r : Registry) (p : Issue → Bool) :
    r.issues.find? p = (r.entries.find? fun e => p e.issue).map (·.issue) := List.find?_map

section

variable {ds : List Declaration} (hs : Declaration.Sound ds) (ws : List Write)

theorem issues_commit_build (ds : List Declaration) (ws : List Write) :
    ((build ds).commit ws).issues = ds.map (issueOf ds) := by
  rw [issues, entries_commit_build, List.map_map]
  exact List.map_congr_left fun d _ => entryAfter_issue ds ws d

theorem map_entries_commit_build {κ : Type} (key : Issue → κ) :
    ((build ds).commit ws).entries.map (fun e => key e.issue) = (ds.map (issueOf ds)).map key := by
  rw [← issues_commit_build ds ws, issues, List.map_map]
  rfl

include hs

theorem eq_entryAfter {d : Declaration} (hd : d ∈ ds) {e : Entry}
    (he : e ∈ ((build ds).commit ws).entries) (h : e.issue.StandsFor d) :
    e = entryAfter ds ws d := by
  have hcode : ((build ds).commit ws).byCode? e.issue.code = some (entryAfter ds ws d) :=
    h.code ▸ byCode?_commit_build hs ws hd
  have hown := byCode?_of_mem (resolvable_commit_build hs ws).codes he
  exact Option.some.inj (hown.symm.trans hcode)

theorem parentOf?_of_standsFor {d : Declaration} (hd : d ∈ ds) {e : Entry}
    (he : e ∈ ((build ds).commit ws).entries) (h : e.issue.StandsFor d) :
    ((build ds).commit ws).parentOf? e.issue =
      (d.parent?.bind (Declaration.find? ds)).map (entryAfter ds ws) := by
  rw [eq_entryAfter hs ws hd he h, entryAfter_issue, parentOf?_commit_build hs]

theorem exists_parentOf? {d : Declaration} (hd : d ∈ ds) {e : Entry}
    (he : e ∈ ((build ds).commit ws).entries) (h : e.issue.StandsFor d) {p : String}
    (hp : d.parent? = some p) : ∃ q ∈ ds, ∃ f, q.identifier = p ∧ f.issue.StandsFor q ∧
      ((build ds).commit ws).parentOf? e.issue = some f := by
  obtain ⟨q, hq⟩ := Index.exists_parent hs hd hp
  have hid : q.identifier = p := by simpa using List.find?_some hq
  refine ⟨q, List.mem_of_find?_eq_some hq, entryAfter ds ws q, hid, ?_, ?_⟩
  · rw [entryAfter_issue]
    exact standsFor_issueOf ds q
  · rw [parentOf?_of_standsFor hs ws hd he h, hp, Option.bind_some, hq, Option.map_some]

theorem byCode?_of_retired {row : Int × String} (hrow : row ∈ retiredCodes) :
    ((build ds).commit ws).byCode? row.1 = none := by
  refine List.find?_eq_none.2 fun e he => ?_
  rw [entries_commit_build] at he
  obtain ⟨d, hd, rfl⟩ := List.mem_map.1 he
  have hcurrent := (Declaration.sound_iff_acceptable.1 hs).current d hd
  rw [decide_eq_true_eq, entryAfter_issue]
  exact fun hcode => hcurrent (List.mem_map.2 ⟨row, hrow, hcode.symm⟩)

theorem faithful_commit_build :
    Faithful ds (Index.ofIssues (ds.map (issueOf ds))) ((build ds).commit ws) := by
  have hcodes : (((build ds).commit ws).entries.map fun e => e.issue.code).Nodup :=
    map_entries_commit_build ws Issue.code ▸ Index.nodup_codes_issues hs
  have hnames : (((build ds).commit ws).entries.map fun e => e.issue.name).Nodup :=
    map_entries_commit_build ws Issue.name ▸ Index.nodup_names_issues hs
  have hfolded : (((build ds).commit ws).entries.map fun e => IssueName.fold e.issue.name).Nodup :=
    map_entries_commit_build ws (fun i => IssueName.fold i.name) ▸ Index.nodup_foldedNames_issues hs
  have hissues := issues_commit_build ds ws
  constructor
  case issues =>
    rw [hissues, List.forall₂_map_left_iff, List.forall₂_same]
    exact fun d _ => standsFor_issueOf ds d
  case byCode? => exact fun c e => find?_key_eq_some_iff hcodes
  case byName? => exact fun n e => find?_key_eq_some_iff hnames
  case byFoldedName? => exact fun e he => find?_key hfolded he
  case indexIssues => exact hissues.symm
  case indexByCode =>
    intro c
    rw [Index.ofIssues, Table.get?_ofKeyed _ (Index.nodup_codes_issues hs), Option.map_id,
      ← hissues]
    exact find?_issues _ _
  case indexByName =>
    intro n
    rw [Index.ofIssues, Table.get?_ofKeyed _ (Index.nodup_names_issues hs), Option.map_id,
      ← hissues]
    exact find?_issues _ _
  case indexByFoldedName =>
    intro n
    rw [Index.ofIssues, Table.get?_ofKeyed _ (Index.nodup_foldedNames_issues hs), Option.map_id,
      ← hissues]
    exact find?_issues _ _
  case parentless =>
    intro d hd e he h
    constructor
    · intro hnone
      cases hp : d.parent? with
      | none => rfl
      | some p =>
          obtain ⟨_, _, f, _, _, hf⟩ := exists_parentOf? hs ws hd he h hp
          cases hnone.symm.trans hf
    · intro hp
      rw [parentOf?_of_standsFor hs ws hd he h, hp]
      rfl
  case parents => exact fun d hd e he h p hp => exists_parentOf? hs ws hd he h hp
  case retired =>
    intro row hrow
    have hnone := byCode?_of_retired hs ws hrow
    exact ⟨hnone, congrArg Except.ok hnone⟩

end

/-- Declarations that the check accepts make a registry: no parent is left without a code and no
index comes out short. In every state after a history it has one issue to a declaration, in their
order, and its look-ups are faithful. -/
theorem faithful_of_check {ds : List Declaration} (h : Declaration.check ds = .ok ()) :
    ∃ x, Index.ofDeclarations ds = .ok x ∧ ofDeclarations ds = .ok (ofIndex x) ∧
      ∀ ops, Faithful ds x ((ofIndex x).replay ops) := by
  have hs := Declaration.check_eq_ok_iff.1 h
  have hindex := Index.ofDeclarations_of_sound hs
  have hbuild := ofDeclarations_eq_ok_iff.2 ⟨hs, rfl⟩
  have hx : ofIndex (Index.ofIssues (ds.map (issueOf ds))) = build ds := by
    rw [ofDeclarations, hindex] at hbuild
    exact Except.ok.inj hbuild
  refine ⟨_, hindex, hx ▸ hbuild, fun ops => ?_⟩
  rw [hx, (fresh_build ds).replay]
  exact faithful_commit_build hs _

/-- Without the check a repeated code would take the place of the first one. -/
example : (Index.fill (Index.codesOf sampleDeclarations) .empty
    (sampleDeclarations ++ [leveled 3 "ADDED_FIELD" .error .compatibility none])).map
      (·.isComplete 5) = .ok false := by decide +kernel

/-- Every issue that inherits is declared before its parent. -/
def forwardDeclarations : List Declaration := sampleDeclarations.reverse

theorem faithful_of_check_sample : ∃ x r, Index.ofDeclarations forwardDeclarations = .ok x ∧
    ofDeclarations forwardDeclarations = .ok r ∧
    Faithful forwardDeclarations x (r.replay sampleHistory) := by
  have h : Declaration.check forwardDeclarations = .ok () := by decide +kernel
  obtain ⟨x, hx, hr, hfaithful⟩ := faithful_of_check h
  exact ⟨x, _, hx, hr, hfaithful sampleHistory⟩

end Registry

end DiagnosticCatalog
