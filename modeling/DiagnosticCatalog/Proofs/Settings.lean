import DiagnosticCatalog.Proofs.Registry.Preset
import DiagnosticCatalog.Proofs.Registry.Request
import DiagnosticCatalog.Proofs.Settings.Grouping
import DiagnosticCatalog.Settings.File
/-!
Settings. Those that are read hold their tokens by ascending severity; when they are applied to the
end, the preset has decided each entry first and then the tokens.
-/

namespace DiagnosticCatalog

namespace Settings

theorem pairwise_orderedTokens (entries : List (Value × Value)) :
    (orderedTokens entries).Pairwise fun p q => p.2 ≤ q.2 := by
  apply List.pairwise_flatMap.2
  constructor
  · intro s _
    apply List.pairwise_of_forall_mem_list
    intro p hp q hq
    rw [severity_of_mem_tokensFor hp, severity_of_mem_tokensFor hq]
    exact Severity.le_refl s
  · refine Severity.pairwise_all.imp fun hst p hp q hq => ?_
    rw [severity_of_mem_tokensFor hp, severity_of_mem_tokensFor hq]
    exact hst

theorem pairwise_ofDocument {path? : Option String} {v : Value} {s : Settings}
    (h : ofDocument path? v = .ok s) : s.severities.Pairwise fun p q => p.2 ≤ q.2 := by
  rw [ofDocument] at h
  split at h
  · split at h
    · cases h
    · obtain ⟨_, rfl⟩ := readEntries_eq_ok_iff.1 h
      rw [ofEntries, List.pairwise_map]
      exact pairwise_orderedTokens _
    · obtain rfl := Except.ok.inj h
      exact .nil
  · cases h

/-- Whatever the file, the tokens of settings from it ascend in severity. -/
theorem pairwise_load {source : FileSource} {path : String} {s : Settings}
    (h : load source path = .ok s) : s.severities.Pairwise fun p q => p.2 ≤ q.2 := by
  simp only [load, bind, Except.bind] at h
  split at h
  · cases h
  · split at h
    · cases h
    · exact pairwise_ofDocument h

end Settings

/-- The rows of a preset, if there is one. -/
def Preset.rows (preset? : Option Preset) : List (Int × Severity) := preset?.elim [] Preset.table

theorem Preset.ofName?_name : ∀ p : Preset, ofName? p.name = some p := by
  intro p
  cases p <;> decide

namespace Registry

theorem applyPresetNamed_name (r : Registry) (p : Preset) :
    r.applyPresetNamed p.name = r.applyPreset p := by
  rw [applyPresetNamed, Preset.find, Preset.ofName?_name]

variable {r : Registry} (hr : (r.entries.map (·.issue.code)).Nodup)
  (ha : ∀ p : Preset, r.Addressed p.table)

include hr ha

theorem applySettings_registry {s : Settings} {missed : List Text}
    (h : (r.applySettings s).outcome = .ok missed) : (r.applySettings s).registry =
      r.update (r.asked true s.severities ∘ Entry.preset (Preset.rows s.preset?)) := by
  cases hp : s.preset? with
  | none =>
      have happly : r.applySettings s = (Run.done r ()).andThen fun r _ =>
          r.configureSeverities s.severities true := by
        simp only [applySettings, Settings.arrangement, hp, Option.map_none]
      rw [happly] at h ⊢
      obtain ⟨_, _, hbatch, hregistry⟩ := Run.outcome_of_andThen h
      rw [hregistry, ← update_update, Preset.rows, Option.elim_none, update_preset_nil]
      exact configureSeverities_registry hr hbatch
  | some p =>
      have happly : r.applySettings s = ((r.applyPreset p).map fun _ => ()).andThen fun r _ =>
          r.configureSeverities s.severities true := by
        simp only [applySettings, Settings.arrangement, hp, Option.map_some, applyPresetNamed_name]
      rw [happly] at h ⊢
      obtain ⟨_, hpreset, hbatch, hregistry⟩ := Run.outcome_of_andThen h
      obtain ⟨n, hn, _⟩ := Run.outcome_of_map hpreset
      have hfirst := applyPreset_registry hr (ha p) hn
      have hissue := Entry.preset_issue p.table
      rw [Run.map_registry, hfirst] at hbatch hregistry
      have hcodes := codes_update hissue r
      rw [hregistry, configureSeverities_registry (hcodes ▸ hr) hbatch, update_update,
        asked_update hissue]
      rfl

end Registry

end DiagnosticCatalog
