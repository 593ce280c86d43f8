import DiagnosticCatalog.Proofs.Registry.Failure
import DiagnosticCatalog.Proofs.Settings
/-!
Presets and user requests in either order. A request marks its issues as set by a user, and a preset
passes over issues so marked; so the preset decides just the entries that are not asked for and were
not marked before, whichever of the two comes first.
-/

namespace DiagnosticCatalog

/-- The token can be written, and none of its pieces has too many digits. -/
def Token.Legible (token : Token) : Prop :=
  ∃ t, token.spelling = .ok t ∧ ∀ piece ∈ Registry.tokenPieces t, ¬piece.Overlong

namespace Registry

/-! ## One entry -/

/-- What a user asks for is left alone by a preset, and hides what a preset has written. -/
theorem asked_preset (r : Registry) (batch : List (Text × Severity)) (rows : List (Int × Severity))
    (e : Entry) : r.asked true batch (e.preset rows) = (r.asked true batch e).preset rows := by
  have hissue := e.preset_issue rows
  cases hs : r.requested? batch e.issue with
  | some s =>
      rw [asked_of_some hs, asked_of_some (hissue ▸ hs), hissue, Entry.preset_of_userSet rfl]
  | none => rw [asked_of_none hs, asked_of_none (hissue ▸ hs)]

theorem update_asked_preset (r : Registry) (batch : List (Text × Severity))
    (rows : List (Int × Severity)) :
    (r.update (r.asked true batch)).update (Entry.preset rows) =
      (r.update (Entry.preset rows)).update (r.asked true batch) := by
  rw [update_update, update_update]
  exact update_congr fun e _ => (r.asked_preset batch rows e).symm

/-! ## Whole calls -/

/-- Requests that can be read are accepted, and none of their pieces stops a batch. -/
theorem exists_batch_of_legible {requests : List (Token × Value)}
    (hlevels : ∀ q ∈ requests, q.2.Settable) (htokens : ∀ q ∈ requests, q.1.Legible) :
    ∃ batch, requestedBatch requests = .ok batch ∧
      ∀ q ∈ requestPieces batch, ¬q.1.Overlong := by
  obtain ⟨batch, hbatch⟩ := exists_requestedBatch fun q hq => by
    obtain ⟨t, ht, _⟩ := htokens q hq
    obtain ⟨s, hs⟩ := Value.settable_iff.1 (hlevels q hq)
    exact ⟨(t, s), request_eq_ok_iff.2 ⟨ht, hs⟩⟩
  refine ⟨batch, hbatch, (forall_requestPieces (¬Text.Overlong ·) batch).2 fun t ht => ?_⟩
  obtain ⟨p, hp, rfl⟩ := List.mem_map.1 ht
  obtain ⟨q, hq, hrequest⟩ := exists_request_of_mem hbatch hp
  obtain ⟨t, hspelling, hpieces⟩ := htokens q hq
  obtain rfl := Except.ok.inj (hspelling.symm.trans (request_eq_ok_iff.1 hrequest).1)
  exact hpieces

theorem configure_of_legible {r : Registry} (hr : (r.entries.map (·.issue.code)).Nodup)
    {requests : List (Token × Value)} {batch : List (Text × Severity)}
    (hbatch : requestedBatch requests = .ok batch)
    (hpieces : ∀ q ∈ requestPieces batch, ¬q.1.Overlong) (userSet : Bool) :
    (r.configure requests userSet).outcome = .ok (r.missedPieces (requestPieces batch)) ∧
      (r.configure requests userSet).registry = r.update (r.asked userSet batch) := by
  have hstops : ∀ q ∈ requestPieces batch, ¬r.Stops q.1 := fun q hq hstops =>
    hpieces q hq hstops.1
  obtain ⟨missed, hmissed⟩ := exists_of_isOk ((isOk_configure hbatch r userSet).2 hstops)
  have hrun : r.configure requests userSet = r.configureSeverities batch userSet := by
    rw [configure, hbatch]
  rw [hrun] at hmissed ⊢
  exact ⟨missed_of_configureSeverities hmissed ▸ hmissed, configureSeverities_registry hr hmissed⟩

/-- A user's requests and then a preset, with what the requests missed. -/
def configureThenPreset (r : Registry) (requests : List (Token × Value)) (p : Preset) :
    Run (List Text) :=
  (r.configure requests true).andThen fun r missed =>
    (r.applyPresetNamed p.name).map fun _ => missed

def presetThenConfigure (r : Registry) (requests : List (Token × Value)) (p : Preset) :
    Run (List Text) :=
  (r.applyPresetNamed p.name).andThen fun r _ => r.configure requests true

section

variable {r : Registry} (h : Reached standardDeclarations r) (p : Preset)
  {requests : List (Token × Value)} {batch : List (Text × Severity)}
  (hbatch : requestedBatch requests = .ok batch)
  (hpieces : ∀ q ∈ requestPieces batch, ¬q.1.Overlong)

include h hbatch hpieces

theorem configureThenPreset_leaves :
    (r.configureThenPreset requests p).outcome = .ok (r.missedPieces (requestPieces batch)) ∧
      (r.configureThenPreset requests p).registry =
        (r.update (r.asked true batch)).update (Entry.preset p.table) := by
  obtain ⟨hmissed, hasked⟩ := configure_of_legible h.resolvable.codes hbatch hpieces true
  -- The state behind the requests is reached too, so the preset comes to its end there.
  have hreached : Reached standardDeclarations (r.update (r.asked true batch)) :=
    hasked ▸ h.perform (.configure requests true)
  obtain ⟨n, hn, hpreset⟩ := hreached.applyPreset_leaves p
  have hthen : r.configureThenPreset requests p =
      (r.configure requests true).andThen fun r missed => (r.applyPreset p).map fun _ => missed := by
    simp only [configureThenPreset, applyPresetNamed_name]
  rw [hthen, Run.andThen, hmissed, hasked]
  constructor
  · exact Run.map_outcome_eq_ok_iff.2 ⟨n, hn, rfl⟩
  · exact hpreset

theorem presetThenConfigure_leaves :
    (r.presetThenConfigure requests p).outcome = .ok (r.missedPieces (requestPieces batch)) ∧
      (r.presetThenConfigure requests p).registry =
        (r.update (Entry.preset p.table)).update (r.asked true batch) := by
  have hissue := Entry.preset_issue p.table
  obtain ⟨n, hn, hpreset⟩ := h.applyPreset_leaves p
  -- Behind the preset the requests name the same issues.
  obtain ⟨hmissed, hasked⟩ :=
    configure_of_legible (codes_update hissue r ▸ h.resolvable.codes) hbatch hpieces true
  rw [missedPieces_update hissue] at hmissed
  rw [asked_update hissue] at hasked
  rw [presetThenConfigure, applyPresetNamed_name, Run.andThen, hn, hpreset]
  exact ⟨hmissed, hasked⟩

end

/-- In every state of the standard registry a preset and a user's requests, with levels that can be
stored and tokens that can be read, come to the same in either order: what is asked for is as asked,
the rest as the preset says, and the same pieces are missed. -/
theorem Reached.configure_applyPreset_comm {r : Registry} (h : Reached standardDeclarations r)
    (p : Preset) {requests : List (Token × Value)} (hlevels : ∀ q ∈ requests, q.2.Settable)
    (htokens : ∀ q ∈ requests, q.1.Legible) :
    (r.configureThenPreset requests p).registry = (r.presetThenConfigure requests p).registry ∧
      ∃ batch, requestedBatch requests = .ok batch ∧
        (r.presetThenConfigure requests p).registry.entries =
          r.entries.map (fun e => r.asked true batch (e.preset p.table)) ∧
        (r.configureThenPreset requests p).outcome = .ok (r.missedPieces (requestPieces batch)) ∧
        (r.presetThenConfigure requests p).outcome = .ok (r.missedPieces (requestPieces batch)) := by
  obtain ⟨batch, hbatch, hpieces⟩ := exists_batch_of_legible hlevels htokens
  obtain ⟨houtcome, hregistry⟩ := configureThenPreset_leaves h p hbatch hpieces
  obtain ⟨houtcome', hregistry'⟩ := presetThenConfigure_leaves h p hbatch hpieces
  refine ⟨?_, batch, hbatch, ?_, houtcome, houtcome'⟩
  · rw [hregistry, hregistry', update_asked_preset]
  · rw [hregistry', update_update]
    rfl

def sampleUserRequests : List (Token × Value) :=
  [(.text "AddedClass,,AddedPackage", .text "hide"), (.code 2, .severity .info)]

/-- The preset lists both issues that are asked for, and one that a user had set before. -/
theorem Reached.configure_applyPreset_comm_sample :
    (sampleStandard.configureThenPreset sampleUserRequests .released).registry =
        (sampleStandard.presetThenConfigure sampleUserRequests .released).registry ∧
      ∃ missed,
        (sampleStandard.configureThenPreset sampleUserRequests .released).outcome = .ok missed ∧
        (sampleStandard.presetThenConfigure sampleUserRequests .released).outcome = .ok missed := by
  have hlevels : ∀ q ∈ sampleUserRequests, q.2.Settable := by
    simp only [sampleUserRequests, List.forall_mem_cons, List.not_mem_nil, false_imp_iff,
      implies_true, and_true]
    exact ⟨.word (s := .hidden) (toOption_eq_some.1 (by decide +kernel)), .severity .info⟩
  have htokens : ∀ q ∈ sampleUserRequests, q.1.Legible := by
    simp only [sampleUserRequests, List.forall_mem_cons, List.not_mem_nil, false_imp_iff,
      implies_true, and_true]
    exact ⟨⟨_, rfl, by decide +kernel⟩, ⟨_, Token.spelling_code (by decide +kernel),
      by decide +kernel⟩⟩
  obtain ⟨hregistry, batch, _, _, houtcome, houtcome'⟩ :=
    reached_sampleStandard.configure_applyPreset_comm .released hlevels htokens
  exact ⟨hregistry, _, houtcome, houtcome'⟩

end Registry

end DiagnosticCatalog
