import DiagnosticCatalog.Layer.Operation
import DiagnosticCatalog.Proofs.Layer
import DiagnosticCatalog.Proofs.Settings
import DiagnosticCatalog.Proofs.Standard
/-!
A preset in a layer against a preset put into the registry. Both give its severities to the issues
that it lists. An issue that is not listed but inherits from one that is follows the preset only
where the preset is in the registry: a layer falls through to what is in effect without it.
-/

namespace DiagnosticCatalog.Registry

open Descent

/-- The table decides the severity of the entry: by the row of its issue, or else by that of the
first listed issue among those that it inherits from. -/
inductive Decides (r : Registry) (rows : List (Int × Severity)) : Entry → Severity → Prop
  | listed {e : Entry} {s : Severity} : rows.lookup e.issue.code = some s → Decides r rows e s
  | heir {e f : Entry} {s : Severity} : rows.lookup e.issue.code = none → r.heir? e = some f →
      Decides r rows f s → Decides r rows e s

section

variable {r : Registry} {rows : List (Int × Severity)}

theorem Decides.unique {e : Entry} {s t : Severity} (h : r.Decides rows e s)
    (k : r.Decides rows e t) : s = t := by
  induction h with
  | listed hs =>
      cases k with
      | listed ht => exact Option.some.inj (hs.symm.trans ht)
      | heir hnone _ _ => cases hs.symm.trans hnone
  | heir hnone hef _ ih =>
      cases k with
      | listed ht => cases hnone.symm.trans ht
      | heir _ heg hg =>
          obtain rfl := Option.some.inj (hef.symm.trans heg)
          exact ih hg

theorem exists_decides {e f : Entry} (h : Reaches r.heir? e f)
    (hf : (rows.lookup f.issue.code).isSome = true) : ∃ s, r.Decides rows e s := by
  induction h using Relation.ReflTransGen.head_induction_on with
  | refl =>
      obtain ⟨s, hs⟩ := Option.isSome_iff_exists.1 hf
      exact ⟨s, .listed hs⟩
  | @head e g heg _ ih =>
      cases hs : rows.lookup e.issue.code with
      | some s => exact ⟨s, .listed hs⟩
      | none =>
          obtain ⟨s, hdecides⟩ := ih
          exact ⟨s, .heir hs heg hdecides⟩

theorem Decides.settles (huser : ∀ e ∈ r.entries, e.userSet = false) {e : Entry} {s : Severity}
    (h : r.Decides rows e s) (he : e ∈ r.entries) :
    (r.update (Entry.preset rows)).Settles (e.preset rows) s := by
  -- Unlisted entries on the way go on inheriting, in the new state from entries that are updated.
  induction h with
  | @listed e s hs =>
      rw [Entry.preset_of_some (huser e he) hs]
      exact .of_explicit rfl
  | @heir e f s hnone hef _ ih =>
      rw [Entry.preset_of_none hnone]
      refine .of_heir ?_ (ih (mem_of_heir? hef))
      rw [heir?_update (Entry.preset_issue rows), hef]
      rfl

/-- A table that lists nothing along a walk leaves the walk to its end. -/
theorem settles_preset {e : Entry} {s : Severity} (hs : r.Settles e s)
    (hnone : ∀ f, Reaches r.heir? e f → rows.lookup f.issue.code = none) :
    (r.update (Entry.preset rows)).Settles (e.preset rows) s := by
  obtain ⟨n, f, hl, hf⟩ := hs
  induction hl with
  | @stop e _ =>
      rw [Entry.preset_of_none (hnone e .refl)]
      exact .of_explicit hf
  | @step e g f n heg hl ih =>
      rw [Entry.preset_of_none (hnone e .refl)]
      refine .of_heir ?_ (ih (fun x hx => hnone x (.head heg hx)) hf)
      rw [heir?_update (Entry.preset_issue rows), heg]
      rfl

end

theorem Reached.ofPresetNamed {r : Registry} (h : Reached standardDeclarations r) (p : Preset) :
    ∃ l, Layer.ofPresetNamed r p.name = .ok l ∧
      ∀ c, l.levels.lookup c = p.table.lookup c := by
  refine ⟨⟨Layer.insertAll p.table []⟩, ?_, fun c => ?_⟩
  · rw [Layer.ofPresetNamed, Preset.find, Preset.ofName?_name]
    exact Layer.setAll_codes (h.byCode?_table p) .empty
  · rw [Layer.lookup_insertAll, Layer.latest?_eq_lookup (keys_table p)]
    exact Option.or_none

/-- In a state of the standard registry in which no issue is set by a user, the layer of a preset
and the preset put into the registry give one severity to every issue that is listed, and to every
issue that inherits from none that is listed. For the other issues the layer gives what was in effect
before, and the registry what the table decides. -/
theorem Reached.preset_severityOf {r : Registry} (h : Reached standardDeclarations r)
    (huser : ∀ e ∈ r.entries, e.userSet = false) (p : Preset) :
    ∃ l n, Layer.ofPresetNamed r p.name = .ok l ∧
      (r.applyPresetNamed p.name).outcome = .ok n ∧
      ∀ ref e, r.require ref = .ok e →
        (((p.table.lookup e.issue.code).isSome = true ∨
            ∀ f, Reaches r.heir? e f → p.table.lookup f.issue.code = none) →
          ∃ s, l.severityOf r ref = .ok s ∧
            (r.applyPresetNamed p.name).registry.effectiveOf ref = .ok s) ∧
        (p.table.lookup e.issue.code = none →
          (∃ f, Reaches r.heir? e f ∧ (p.table.lookup f.issue.code).isSome = true) →
          ∃ s t, r.Decides p.table e s ∧
            (r.applyPresetNamed p.name).registry.effectiveOf ref = .ok s ∧
            r.effectiveOf ref = .ok t ∧ l.severityOf r ref = .ok t) := by
  obtain ⟨l, hl, hlookup⟩ := h.ofPresetNamed p
  obtain ⟨n, hn, hregistry⟩ := h.applyPreset_leaves p
  rw [applyPresetNamed_name, hregistry]
  have hr := h.resolvable
  refine ⟨l, n, hl, hn, fun ref e href => ?_⟩
  have he := mem_of_require href
  obtain ⟨t, ht⟩ := hr.settles e he
  have hbefore := effectiveOf_of_settles hr.codes he ht href
  -- What the walk in the new state ends at is in effect there.
  have hafter {s : Severity} := effectiveOf_update (s := s) (Entry.preset_issue p.table) hr.codes href
  constructor
  · rintro (hlisted | hnone)
    · obtain ⟨s, hs⟩ := Option.isSome_iff_exists.1 hlisted
      exact ⟨s, Layer.severityOf_of_some href ((hlookup _).trans hs),
        hafter ((Decides.listed hs).settles huser he)⟩
    · refine ⟨t, ?_, hafter (settles_preset ht hnone)⟩
      rw [Layer.severityOf_of_none href ((hlookup _).trans (hnone e .refl)), hbefore]
  · rintro hunlisted ⟨f, hef, hf⟩
    obtain ⟨s, hs⟩ := exists_decides hef hf
    refine ⟨s, t, hs, hafter (hs.settles huser he), hbefore, ?_⟩
    rw [Layer.severityOf_of_none href ((hlookup _).trans hunlisted), hbefore]

def entryAt (r : Registry) (code : Int) : Entry := (r.byCode? code).getD default

section

variable {r : Registry} {code : Int}

theorem byCode?_entryAt (h : (r.byCode? code).isSome = true) :
    r.byCode? code = some (r.entryAt code) := by
  obtain ⟨e, he⟩ := Option.isSome_iff_exists.1 h
  rw [entryAt, he, Option.getD_some]

theorem require_entryAt (h : (r.byCode? code).isSome = true) :
    r.require (.token (.code code)) = .ok (r.entryAt code) :=
  require_of_resolve (congrArg Except.ok (byCode?_entryAt h))

theorem heir?_entryAt {parent : Int} (hlevel : (r.entryAt code).level = .inherit)
    (hparent : (r.entryAt code).issue.parentCode? = some parent)
    (h : (r.byCode? parent).isSome = true) :
    r.heir? (r.entryAt code) = some (r.entryAt parent) := by
  rw [heir?_of_inherit hlevel, parentOf?, hparent]
  exact byCode?_entryAt h

end

theorem userSet_standard : ∀ e ∈ standard.entries, e.userSet = false := fun e he =>
  congrArg Entry.userSet (fresh_build standardDeclarations e he)

theorem heir?_standard : standard.heir? (standard.entryAt 28) = some (standard.entryAt 8) :=
  heir?_entryAt (by decide +kernel) (by decide +kernel) (by decide +kernel)

/-- Issue 1 inherits from none; issue 28 inherits from 8, which is listed. -/
theorem Reached.preset_severityOf_sample :
    ∃ l, Layer.ofPresetNamed standard Preset.released.name = .ok l ∧
      (∃ s, l.severityOf standard (.token (.code 1)) = .ok s ∧
        (standard.applyPresetNamed Preset.released.name).registry.effectiveOf (.token (.code 1)) =
          .ok s) ∧
      ∃ t, l.severityOf standard (.token (.code 28)) = .ok t ∧
        (standard.applyPresetNamed Preset.released.name).registry.effectiveOf (.token (.code 28)) =
          .ok .error := by
  obtain ⟨l, _, hl, _, h⟩ := reached_standard.preset_severityOf userSet_standard .released
  refine ⟨l, hl, (h _ _ (require_entryAt (by decide +kernel))).1 (.inr fun f hf => ?_), ?_⟩
  · have hstop : standard.heir? (standard.entryAt 1) = none := by decide +kernel
    rw [hf.eq_of_stop hstop]
    decide +kernel
  · have hlisted : Preset.released.table.lookup (standard.entryAt 8).issue.code = some .error := by
      decide +kernel
    have hunlisted : Preset.released.table.lookup (standard.entryAt 28).issue.code = none := by
      decide +kernel
    obtain ⟨s, t, hs, hafter, _, hlayer⟩ := (h _ _ (require_entryAt (by decide +kernel))).2 hunlisted
      ⟨_, .head heir?_standard .refl, by rw [hlisted]; rfl⟩
    obtain rfl := hs.unique (.heir hunlisted heir?_standard (.listed hlisted))
    exact ⟨t, hlayer, hafter⟩

/-- At first, with no issue set by a user, the layer of the preset leaves issue 28 a warning, for
which the preset in the registry makes it an error. -/
theorem preset_severityOf_ne :
    Reached standardDeclarations standard ∧ (∀ e ∈ standard.entries, e.userSet = false) ∧
    ∃ l n, Layer.ofPresetNamed standard Preset.current.name = .ok l ∧
      (standard.applyPresetNamed Preset.current.name).outcome = .ok n ∧
      l.severityOf standard (.token (.code 28)) = .ok .warning ∧
      (standard.applyPresetNamed Preset.current.name).registry.effectiveOf (.token (.code 28)) =
        .ok .error := by
  obtain ⟨l, hl, hlookup⟩ := reached_standard.ofPresetNamed .current
  obtain ⟨n, hn, hregistry⟩ := reached_standard.applyPreset_leaves .current
  have hcodes := reached_standard.resolvable.codes
  have href : standard.require (.token (.code 28)) = .ok (standard.entryAt 28) :=
    require_entryAt (by decide +kernel)
  have hlisted : Preset.current.table.lookup (standard.entryAt 8).issue.code = some .error := by
    decide +kernel
  have hunlisted : Preset.current.table.lookup (standard.entryAt 28).issue.code = none := by
    decide +kernel
  have hdecides : standard.Decides Preset.current.table (standard.entryAt 28) .error :=
    .heir hunlisted heir?_standard (.listed hlisted)
  have hbefore : standard.Settles (standard.entryAt 28) .warning :=
    .of_heir heir?_standard (.of_explicit (by decide +kernel))
  refine ⟨reached_standard, userSet_standard, l, n, hl, applyPresetNamed_name _ _ ▸ hn, ?_, ?_⟩
  · rw [Layer.severityOf_of_none href ((hlookup _).trans hunlisted)]
    exact effectiveOf_of_settles hcodes (mem_of_require href) hbefore href
  · rw [applyPresetNamed_name, hregistry]
    exact effectiveOf_update (Entry.preset_issue _) hcodes href
      (hdecides.settles userSet_standard (mem_of_require href))

end DiagnosticCatalog.Registry
