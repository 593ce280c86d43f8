import DiagnosticCatalog.Layer.Operation
import DiagnosticCatalog.Proofs.Layer
import DiagnosticCatalog.Proofs.Registry.Inheritance
import Mathlib.Data.List.Dedup
/-!
Histories of layers. What a layer holds is what was put into it since it was made, the latest
severity for each issue; changes of the registry and of other layers leave it alone, and the
registry goes on as if there were no layers. For any other issue a layer gives what is in effect in
the registry at the time.
-/

namespace DiagnosticCatalog

namespace Layer

/-! ## What is put in -/

/-- The code and the severity that are put in for a reference and a level. -/
def row (r : Registry) (p : Ref × Value) : Except Failure (Int × Severity) :=
  match r.require p.1 with
  | .error e => .error e
  | .ok e =>
    match requested p.2 with
    | .error f => .error f
    | .ok s => .ok (e.issue.code, s)

theorem set_eq_map (r : Registry) (l : Layer) (ref : Ref) (level : Value) :
    l.set r ref level = (row r (ref, level)).map fun q => ⟨insert q.1 q.2 l.levels⟩ := by
  rw [set, row]
  cases r.require ref with
  | error e => rfl
  | ok e =>
      cases requested level with
      | error f => rfl
      | ok s => rfl

theorem setAll_eq_map (r : Registry) (l : Layer) (pairs : List (Ref × Value)) :
    setAll r l pairs = (pairs.mapM (row r)).map fun rows => ⟨insertAll rows l.levels⟩ := by
  induction pairs generalizing l with
  | nil => rfl
  | cons p pairs ih =>
      rw [setAll, set_eq_map, List.mapM_cons]
      cases row r p with
      | error e => rfl
      | ok q =>
          change setAll r ⟨insert q.1 q.2 l.levels⟩ pairs = _
          rw [ih]
          change _ = Except.map _ ((pairs.mapM (row r)).bind fun rows => .ok (q :: rows))
          cases pairs.mapM (row r) <;> rfl

end Layer

namespace LayerOperation

/-- References with levels, in the order in which they go into the layer. -/
def pairs : LayerOperation → Except Failure (List (Ref × Value))
  | .make ps => .ok (ps.foldl (fun m p => Layer.bind p.1 p.2 m) [])
  | .makePreset name =>
    (Preset.find name).map fun p => p.table.map fun row => (.token (.code row.1), .severity row.2)
  | .set ref level => .ok [(ref, level)]
  | .error ref => .ok [(ref, .severity .error)]
  | .hide ref => .ok [(ref, .severity .hidden)]

/-- Whether a new layer takes the place of the old one. -/
def makes : LayerOperation → Bool
  | .make _ | .makePreset _ => true
  | _ => false

/-- The codes and severities that the operation puts in. It puts in all of them or fails. -/
def rows (r : Registry) (op : LayerOperation) : Except Failure (List (Int × Severity)) :=
  op.pairs.bind fun ps => ps.mapM (Layer.row r)

/-- What is on record as put into a layer, with the rows of one more operation behind it. -/
def extend (r : Registry) (ps : List (Int × Severity)) (op : LayerOperation) :
    List (Int × Severity) :=
  match op.rows r with
  | .error _ => ps
  | .ok rows => if op.makes then rows else ps ++ rows

end LayerOperation

theorem Layer.change_eq (r : Registry) (l : Layer) (op : LayerOperation) :
    l.change r op = (op.rows r).map fun rows =>
      ⟨insertAll rows (if op.makes then [] else l.levels)⟩ := by
  have hone (ref : Ref) (level : Value) : l.set r ref level = setAll r l [(ref, level)] := by
    rw [setAll]
    cases l.set r ref level <;> rfl
  cases op with
  | make ps => exact setAll_eq_map r empty _
  | makePreset name =>
      rw [change, ofPresetNamed, LayerOperation.rows, LayerOperation.pairs]
      cases Preset.find name with
      | error e => rfl
      | ok p => exact setAll_eq_map r empty _
  | set ref level => exact (hone ref level).trans (setAll_eq_map r l _)
  | error ref => exact (hone ref (.severity .error)).trans (setAll_eq_map r l _)
  | hide ref => exact (hone ref (.severity .hidden)).trans (setAll_eq_map r l _)

namespace Layer

/-- The layer of rows that were put in one after the other. -/
def ofRows (ps : List (Int × Severity)) : Layer := ⟨insertAll ps []⟩

/-- A change of a layer puts its rows in, or else fails. -/
theorem change_ofRows (r : Registry) (ps : List (Int × Severity)) (op : LayerOperation) :
    (ofRows ps).change r op = (op.rows r).map fun _ => ofRows (op.extend r ps) := by
  rw [change_eq, LayerOperation.extend]
  cases op.rows r with
  | error e => rfl
  | ok rows =>
      cases op.makes with
      | true => rfl
      | false =>
          have happend : insertAll (ps ++ rows) [] = insertAll rows (insertAll ps []) :=
            List.foldl_append
          simp only [Except.map, ofRows, Bool.false_eq_true, if_false, happend]

/-! ## What is held -/

theorem lookup_ofRows (ps : List (Int × Severity)) (c : Int) :
    (ofRows ps).levels.lookup c = latest? c ps :=
  (lookup_insertAll ps [] c).trans Option.or_none

theorem latest?_isSome_iff {c : Int} {ps : List (Int × Severity)} :
    (latest? c ps).isSome = true ↔ c ∈ ps.map Prod.fst := by
  induction ps with
  | nil => simp [latest?]
  | cons p ps ih =>
      rw [latest?_cons, Option.isSome_or, Bool.or_eq_true, ih, List.map_cons, List.mem_cons,
        or_comm]
      by_cases h : c = p.1 <;> simp [h]

theorem nodup_codes_insertAll (ps : List (Int × Severity)) {levels : List (Int × Severity)}
    (h : (levels.map Prod.fst).Nodup) : ((insertAll ps levels).map Prod.fst).Nodup := by
  induction ps generalizing levels with
  | nil => exact h
  | cons p ps ih =>
      have hinsert : ((insert p.1 p.2 levels).map Prod.fst).Nodup := by
        rw [insert_eq_bindRow]
        exact Table.nodup_keys_bindRow p.1 p.2 h
      exact ih hinsert

theorem nodup_codes_ofRows (ps : List (Int × Severity)) :
    ((ofRows ps).levels.map Prod.fst).Nodup := nodup_codes_insertAll ps List.nodup_nil

theorem mem_items (ps : List (Int × Severity)) {c : Int} {s : Severity} :
    (c, s) ∈ (ofRows ps).items ↔ latest? c ps = some s := by
  rw [items, List.mem_mergeSort, Table.mem_iff_lookup (nodup_codes_ofRows ps), lookup_ofRows]

theorem pairwise_items (ps : List (Int × Severity)) :
    (ofRows ps).items.Pairwise fun a b => a.1 < b.1 := by
  have hsorted : (ofRows ps).items.Pairwise fun a b => decide (a.1 ≤ b.1) = true := by
    refine List.pairwise_mergeSort (fun a b c hab hbc => ?_) (fun a b => ?_) _
    · simp only [decide_eq_true_eq] at hab hbc ⊢
      exact Int.le_trans hab hbc
    · simpa using Int.le_total a.1 b.1
  have hcodes : (ofRows ps).items.Pairwise fun a b => a.1 ≠ b.1 := by
    have hperm := (List.mergeSort_perm (ofRows ps).levels
      fun a b => decide (a.1 ≤ b.1)).map Prod.fst
    exact List.pairwise_map.1 (hperm.nodup_iff.2 (nodup_codes_ofRows ps))
  refine (hsorted.and hcodes).imp fun hab => ?_
  have hle := of_decide_eq_true hab.1
  omega

/-- There are as many items as there are codes among the rows. -/
theorem length_items (ps : List (Int × Severity)) :
    (ofRows ps).items.length = (ps.map Prod.fst).dedup.length := by
  have hcodes := nodup_codes_ofRows ps
  have hperm : ((ofRows ps).levels.map Prod.fst).Perm (ps.map Prod.fst).dedup := by
    refine (List.perm_ext_iff_of_nodup hcodes (List.nodup_dedup _)).2 fun c => ?_
    have hmem : c ∈ ps.map Prod.fst ↔ ((ofRows ps).levels.lookup c).isSome = true := by
      rw [lookup_ofRows, latest?_isSome_iff]
    rw [List.mem_dedup, hmem]
    simp [Table.mem_iff_lookup hcodes, Option.isSome_iff_exists]
  rw [items, List.length_mergeSort, ← hperm.length_eq, List.length_map]

end Layer

/-! ## Histories -/

namespace Change

/-- The changes of the registry in a history. -/
def registryPart : List Change → List Operation
  | [] => []
  | .registry op :: cs => op :: registryPart cs
  | .layer _ _ :: cs => registryPart cs

/-- The changes of one layer in a history. -/
def layerPart (name : String) : List Change → List Change
  | [] => []
  | .registry _ :: cs => layerPart name cs
  | .layer n op :: cs => if n = name then .layer n op :: layerPart name cs else layerPart name cs

/-- What is on record as put into the layer of a name, after one more change. -/
def extend (name : String) (r : Registry) (ps : List (Int × Severity)) :
    Change → List (Int × Severity)
  | .registry _ => ps
  | .layer n op => if n = name then op.extend r ps else ps

end Change

namespace Layered

/-- What is put into the layer of a name in the course of a history, behind what is on record. Only
changes that succeed put something in, each by what its references lead to at the time. -/
def record (name : String) (x : Layered) (ps : List (Int × Severity)) :
    List Change → List (Int × Severity)
  | [] => ps
  | c :: cs => record name (x.perform c).state (c.extend name x.registry ps) cs

theorem putLayer_eq_bindRow (name : String) (l : Layer) (layers : List (String × Layer)) :
    putLayer name l layers = Table.bindRow name l layers := by
  induction layers with
  | nil => rfl
  | cons row layers ih => rw [putLayer, Table.bindRow, ih]

theorem layer_putLayer (r : Registry) (n name : String) (l : Layer)
    (layers : List (String × Layer)) :
    (⟨r, putLayer n l layers⟩ : Layered).layer name =
      if name = n then l else (⟨r, layers⟩ : Layered).layer name := by
  rw [layer, layer, putLayer_eq_bindRow, Table.lookup_bindRow]
  split <;> rfl

theorem registry_perform (x : Layered) (c : Change) :
    (x.perform c).state.registry = match c with
      | .registry op => (x.registry.perform op).registry
      | .layer _ _ => x.registry := by
  cases c with
  | registry op => rfl
  | layer n op =>
      rw [perform]
      cases (x.layer n).change x.registry op <;> rfl

/-- One change leaves a layer with what is then on record for it. -/
theorem layer_perform {x : Layered} {name : String} {ps : List (Int × Severity)}
    (h : x.layer name = .ofRows ps) (c : Change) :
    (x.perform c).state.layer name = .ofRows (c.extend name x.registry ps) := by
  cases c with
  | registry op => exact h
  | layer n op =>
      rw [perform, Change.extend]
      by_cases hn : n = name
      · subst hn
        rw [if_pos rfl, h, Layer.change_ofRows]
        cases hrows : op.rows x.registry with
        | error e =>
            have hextend : op.extend x.registry ps = ps := by rw [LayerOperation.extend, hrows]
            rw [hextend]
            exact h
        | ok rows => exact (layer_putLayer _ _ _ _ _).trans (if_pos rfl)
      · rw [if_neg hn, ← h]
        cases (x.layer n).change x.registry op with
        | error e => rfl
        | ok l => exact (layer_putLayer _ _ _ _ _).trans (if_neg (Ne.symm hn))

/-- A change of a layer succeeds just if all of its rows can be put in. -/
theorem isOk_perform_layer {x : Layered} {name : String} {ps : List (Int × Severity)}
    (h : x.layer name = .ofRows ps) (op : LayerOperation) :
    (x.perform (.layer name op)).outcome.isOk = (op.rows x.registry).isOk := by
  rw [perform, h, Layer.change_ofRows]
  cases op.rows x.registry <;> rfl

/-- In the course of a history a layer holds what is on record for it. -/
theorem layer_replay {x : Layered} {name : String} {ps : List (Int × Severity)}
    (h : x.layer name = .ofRows ps) (cs : List Change) :
    (x.replay cs).layer name = .ofRows (x.record name ps cs) := by
  induction cs generalizing x ps with
  | nil => exact h
  | cons c cs ih => exact ih (layer_perform h c)

/-- The registry goes on as if there were no layers. -/
theorem registry_replay (x : Layered) (cs : List Change) :
    (x.replay cs).registry = x.registry.replay (Change.registryPart cs) := by
  induction cs generalizing x with
  | nil => rfl
  | cons c cs ih =>
      rw [replay, ih, registry_perform]
      cases c <;> rfl

end Layered

/-! ## Layers by themselves -/

theorem Layer.row_update {g : Entry → Entry} (hg : ∀ e, (g e).issue = e.issue) (r : Registry) :
    row (r.update g) = row r := by
  funext p
  rw [row, row, Registry.require_update hg]
  cases r.require p.1 with
  | error e => rfl
  | ok e => simp only [Except.map, hg]

/-- Whatever has become of the levels, an operation puts in the same rows. -/
theorem Registry.Reached.rows_eq {ds : List Declaration} {r r' : Registry} (h : Reached ds r)
    (h' : Reached ds r') (op : LayerOperation) : op.rows r = op.rows r' := by
  obtain ⟨_, ws, rfl⟩ := h.eq_commit
  obtain ⟨_, ws', rfl⟩ := h'.eq_commit
  simp only [LayerOperation.rows, commit_eq_update, Layer.row_update (Entry.after_issue _)]

namespace Layered

open Registry (Reached)

theorem reached_perform {ds : List Declaration} {x : Layered} (h : Reached ds x.registry)
    (c : Change) : Reached ds (x.perform c).state.registry := by
  rw [registry_perform]
  cases c with
  | registry op => exact h.perform op
  | layer _ _ => exact h

/-- What is on record for a layer does not depend on the changes of others. -/
theorem record_layerPart {ds : List Declaration} {x y : Layered} (hx : Reached ds x.registry)
    (hy : Reached ds y.registry) (name : String) (ps : List (Int × Severity)) (cs : List Change) :
    x.record name ps cs = y.record name ps (Change.layerPart name cs) := by
  induction cs generalizing x y ps with
  | nil => rfl
  | cons c cs ih =>
      have hx' := reached_perform hx c
      cases c with
      | registry op => exact ih hx' hy ps
      | layer n op =>
          rw [record, Change.layerPart, Change.extend]
          by_cases hn : n = name
          · rw [if_pos hn, if_pos hn, record, Change.extend, if_pos hn, LayerOperation.extend,
              LayerOperation.extend, hx.rows_eq hy op]
            exact ih hx' (reached_perform hy _) _
          · rw [if_neg hn, if_neg hn]
            exact ih hx' hy ps

/-- After any history of a registry of accepted declarations and of layers over it: a layer gives
for an issue the severity that stands last on record for it, or else what is in effect in the
registry, whichever reference leads to the issue; the registry is what its own changes make of it;
the items of a layer are what its own changes make of them, in ascending order of codes, one for
each code on record. -/
theorem replay_shadows {ds : List Declaration} {r : Registry} (h : Registry.ofDeclarations ds = .ok r)
    (cs : List Change) (name : String) :
    let x := (ofRegistry r).replay cs
    let ps := (ofRegistry r).record name [] cs
    (∀ ref e, x.registry.require ref = .ok e →
      (∀ s, Layer.latest? e.issue.code ps = some s →
        (x.layer name).severityOf x.registry ref = .ok s) ∧
      (Layer.latest? e.issue.code ps = none → ∃ s, x.registry.effectiveOf ref = .ok s ∧
        (x.layer name).severityOf x.registry ref = .ok s)) ∧
    (∀ ref f, x.registry.require ref = .error f →
      (x.layer name).severityOf x.registry ref = .error f) ∧
    (∀ op, (x.perform (.layer name op)).outcome.isOk = (op.rows x.registry).isOk) ∧
    x.registry = r.replay (Change.registryPart cs) ∧
    (x.layer name).items =
      (((ofRegistry r).replay (Change.layerPart name cs)).layer name).items ∧
    (x.layer name).items.Pairwise (fun a b => a.1 < b.1) ∧
    (x.layer name).items.length = (ps.map Prod.fst).dedup.length ∧
    ∀ c s, (c, s) ∈ (x.layer name).items ↔ Layer.latest? c ps = some s := by
  intro x ps
  have hr : Reached ds (ofRegistry r).registry := ⟨r, [], h, rfl⟩
  have hempty : (ofRegistry r).layer name = .ofRows [] := rfl
  have hlayer : x.layer name = .ofRows ps := layer_replay hempty cs
  have hregistry : x.registry = r.replay (Change.registryPart cs) := registry_replay _ cs
  have hreached : Reached ds x.registry := ⟨r, _, h, hregistry.symm⟩
  refine ⟨fun ref e href => ⟨fun s hs => ?_, fun hnone => ?_⟩, fun ref f href => ?_, fun op => ?_,
    hregistry, ?_, ?_, ?_, fun c s => ?_⟩
  · rw [hlayer]
    exact Layer.severityOf_of_some href ((Layer.lookup_ofRows ps _).trans hs)
  · have he := Registry.mem_of_require href
    obtain ⟨s, hs⟩ := hreached.resolvable.settles e he
    have heffective := Registry.effectiveOf_of_settles hreached.resolvable.codes he hs href
    refine ⟨s, heffective, ?_⟩
    rw [hlayer, Layer.severityOf_of_none href ((Layer.lookup_ofRows ps _).trans hnone), heffective]
  · simp only [Layer.severityOf, href]
  · exact isOk_perform_layer hlayer op
  · have hpart := layer_replay hempty (Change.layerPart name cs)
    rw [hlayer, hpart, ← record_layerPart hr hr name [] cs]
  · exact hlayer ▸ Layer.pairwise_items ps
  · exact hlayer ▸ Layer.length_items ps
  · exact hlayer ▸ Layer.mem_items ps

/-- Two layers over the sample registry; the third change is refused for its word. -/
def sampleChanges : List Change := [
  .layer "draft" (.set (.token (.text "AddedClass")) (.text "Hide")),
  .layer "final" (.error (.token (.code 3))),
  .layer "draft" (.set (.token (.text "AddedClass")) (.text "loud")),
  .registry (.setLevel (.token (.code 2)) (.severity .info)),
  .layer "draft" (.set (.token (.text " 3 ")) (.severity .warning)),
  .layer "draft" (.hide (.token (.text "removedpackage")))]

def sampleShadowed : Layered :=
  (ofRegistry (Registry.build Registry.sampleDeclarations)).replay sampleChanges

theorem replay_shadows_sample :
    (sampleShadowed.layer "draft").severityOf sampleShadowed.registry
        (.token (.text "ADDEDCLASS")) = .ok .warning ∧
      (∃ s, sampleShadowed.registry.effectiveOf (.token (.code 30)) = .ok s ∧
        (sampleShadowed.layer "draft").severityOf sampleShadowed.registry (.token (.code 30)) =
          .ok s) ∧
      (sampleShadowed.layer "draft").items.length = 2 := by
  obtain ⟨hseverity, _, _, _, _, _, hlength, _⟩ :=
    replay_shadows Registry.ofDeclarations_sample sampleChanges "draft"
  have hrecord : (ofRegistry (Registry.build Registry.sampleDeclarations)).record "draft" []
      sampleChanges = [(3, .hidden), (3, .warning), (40, .hidden)] := by decide +kernel
  rw [hrecord] at hseverity hlength
  have hclass : sampleShadowed.registry.require (.token (.text "ADDEDCLASS")) =
      .ok ((sampleShadowed.registry.byCode? 3).getD default) :=
    Registry.require_of_resolve (by decide +kernel)
  have hinner : sampleShadowed.registry.require (.token (.code 30)) =
      .ok ((sampleShadowed.registry.byCode? 30).getD default) :=
    Registry.require_of_resolve (by decide +kernel)
  exact ⟨(hseverity _ _ hclass).1 .warning (by decide +kernel),
    (hseverity _ _ hinner).2 (by decide +kernel), hlength⟩

end Layered

end DiagnosticCatalog
