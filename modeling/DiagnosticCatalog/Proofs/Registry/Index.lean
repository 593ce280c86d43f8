import DiagnosticCatalog.Proofs.Declaration
import DiagnosticCatalog.Proofs.Registry.Write
import DiagnosticCatalog.Proofs.Table
import Mathlib.Data.List.Nodup
/-!
The indices that sound declarations come to. A table keeps what was bound last under a key, so from
declarations that share no code and no folded name nothing is lost on the way, and every parent that
is named has a code to be linked by.
-/

namespace DiagnosticCatalog

open Descent

namespace Index

open Registry (issueOf)

/-- The indices of issues that are entered in order. -/
def ofIssues (is : List Issue) : Index where
  issues := is
  byCode := Table.empty.bindAll (·.code) id is
  byName := Table.empty.bindAll (·.name) id is
  byFoldedName := Table.empty.bindAll (fun i => IssueName.fold i.name) id is
  levels := Table.empty.bindAll (·.code) (·.defaultLevel) is
  userSet := Table.empty.bindAll (·.code) (fun _ => false) is

theorem add_ofIssues (is : List Issue) (i : Issue) :
    (ofIssues is).add i = ofIssues (is ++ [i]) := by
  simp only [add, ofIssues, Table.bindAll_concat, id_eq]

/-- Where every declaration can be linked, the pass over them enters their issues. -/
theorem fill_ofIssues {codes : Table String Int} {link : Declaration → Issue}
    {ds : List Declaration} (h : ∀ d ∈ ds, issue codes d = .ok (link d)) (is : List Issue) :
    fill codes (ofIssues is) ds = .ok (ofIssues (is ++ ds.map link)) := by
  induction ds generalizing is with
  | nil => rw [fill, List.map_nil, List.append_nil]
  | cons d ds ih =>
      rw [fill, h d List.mem_cons_self]
      simp only [add_ofIssues]
      rw [ih (fun d hd => h d (List.mem_cons_of_mem _ hd)), List.map_cons, List.append_assoc,
        List.singleton_append]

section

variable {ds : List Declaration} (hs : Declaration.Sound ds)

include hs

theorem get?_codesOf (identifier : String) :
    (codesOf ds).get? identifier = (Declaration.find? ds identifier).map (·.code) :=
  Table.get?_ofKeyed _ hs.identifiers identifier

/-- A parent that is named is declared. -/
theorem exists_parent {d : Declaration} (hd : d ∈ ds) {p : String} (hp : d.parent? = some p) :
    ∃ e, Declaration.find? ds p = some e := by
  have hlevel : d.level = .inherit :=
    Decidable.byContradiction fun hne => by cases (hs.parentless d hd hne).symm.trans hp
  obtain ⟨e, he, _⟩ := (Declaration.grounded_iff_heir hlevel).1 (hs.grounded d hd)
  rw [Declaration.heir?_of_inherit hlevel, hp] at he
  exact ⟨e, he⟩

theorem issue_eq_issueOf {d : Declaration} (hd : d ∈ ds) :
    issue (codesOf ds) d = .ok (issueOf ds d) := by
  rw [issue, parentCode, issueOf]
  cases hp : d.parent? with
  | none => rfl
  | some p =>
      obtain ⟨e, he⟩ := exists_parent hs hd hp
      simp only [get?_codesOf hs, he, Option.map_some, Option.bind_some]
      rfl

theorem nodup_codes_issues : ((ds.map (issueOf ds)).map (·.code)).Nodup := by
  rw [List.map_map]
  exact hs.codes

theorem nodup_foldedNames_issues :
    ((ds.map (issueOf ds)).map fun i => IssueName.fold i.name).Nodup := by
  rw [List.map_map]
  exact hs.names

theorem nodup_names_issues : ((ds.map (issueOf ds)).map (·.name)).Nodup := by
  refine List.Nodup.of_map IssueName.fold ?_
  rw [List.map_map]
  exact nodup_foldedNames_issues hs

theorem ofDeclarations_of_sound :
    Index.ofDeclarations ds = .ok (ofIssues (ds.map (issueOf ds))) := by
  have hfill : fill (codesOf ds) empty ds = .ok (ofIssues (ds.map (issueOf ds))) :=
    fill_ofIssues (fun d hd => issue_eq_issueOf hs hd) []
  have hcomplete : (ofIssues (ds.map (issueOf ds))).isComplete ds.length = true := by
    simp only [isComplete, ofIssues, Table.size_ofKeyed _ (nodup_codes_issues hs),
      Table.size_ofKeyed _ (nodup_foldedNames_issues hs), List.length_map, beq_self_eq_true,
      Bool.and_self]
  rw [Index.ofDeclarations, Declaration.check_eq_ok_iff.2 hs]
  simp only [hfill, hcomplete, if_true]

end

theorem sound_of_ofDeclarations {ds : List Declaration} {x : Index}
    (h : Index.ofDeclarations ds = .ok x) : Declaration.Sound ds := by
  rw [← Declaration.check_eq_ok_iff]
  cases hc : Declaration.check ds with
  | ok _ => rfl
  | error e =>
      rw [Index.ofDeclarations, hc] at h
      cases h

end Index

namespace Registry

/-- An issue that is entered once has the level and the mark that it was entered with. -/
theorem ofIndex_ofIssues {is : List Issue} (h : (is.map (·.code)).Nodup) :
    ofIndex (Index.ofIssues is) = ⟨is.map fresh⟩ := by
  rw [ofIndex, Registry.mk.injEq]
  refine List.map_congr_left fun i hi => ?_
  simp only [Index.ofIssues, Table.get?_ofKeyed _ h, find?_key h hi, Option.map_some,
    Option.getD_some]
  rfl

/-- Declarations are accepted just if they are sound, and each then starts from its own level. -/
theorem ofDeclarations_eq_ok_iff {ds : List Declaration} {r : Registry} :
    ofDeclarations ds = .ok r ↔ Declaration.Sound ds ∧ build ds = r := by
  have hbuild (hs : Declaration.Sound ds) : ofDeclarations ds = .ok (build ds) := by
    rw [ofDeclarations, Index.ofDeclarations_of_sound hs, Except.map,
      ofIndex_ofIssues (Index.nodup_codes_issues hs), List.map_map]
    rfl
  constructor
  · intro h
    cases hx : Index.ofDeclarations ds with
    | error e =>
        rw [ofDeclarations, hx] at h
        cases h
    | ok x =>
        have hs := Index.sound_of_ofDeclarations hx
        exact ⟨hs, Except.ok.inj ((hbuild hs).symm.trans h)⟩
  · rintro ⟨hs, rfl⟩
    exact hbuild hs

end Registry

end DiagnosticCatalog
