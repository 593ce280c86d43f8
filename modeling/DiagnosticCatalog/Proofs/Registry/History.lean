import DiagnosticCatalog.Proofs.Registry.Effect
import DiagnosticCatalog.Proofs.Registry.Index
/-!
Histories. The state after a history is the first state with the writes since the last reset done in
order, so what is stored for an issue is its latest write, or what was declared if there is none.
-/

namespace DiagnosticCatalog

/-- The writes on record after an operation. A reset forgets them all. -/
def Operation.extend (r : Registry) (ws : List Write) : Operation → List Write
  | .reset => []
  | op => ws ++ (op.effect r).writes

theorem Operation.extend_of_ne_reset {op : Operation} (h : op ≠ .reset) (r : Registry)
    (ws : List Write) : op.extend r ws = ws ++ (op.effect r).writes := by
  cases op <;> first | rfl | exact absurd rfl h

namespace Registry

/-- The writes of a history since its last reset, behind those already on record. The registry is the
first one; an operation is judged in the state that the record says it is in. -/
def record (r : Registry) (ws : List Write) : List Operation → List Write
  | [] => ws
  | op :: ops => r.record (op.extend (r.commit ws) ws) ops

/-- Nothing has been written. -/
def Fresh (r : Registry) : Prop := ∀ e ∈ r.entries, e = fresh e.issue

theorem fresh_build (ds : List Declaration) : (build ds).Fresh := by
  intro e he
  obtain ⟨d, _, rfl⟩ := List.mem_map.1 he
  rfl

theorem Fresh.update_fresh {r : Registry} (h : r.Fresh) : r.update (fun e => fresh e.issue) = r := by
  have hm : r.entries.map (fun e => fresh e.issue) = r.entries := by
    rw [List.map_congr_left fun e he => (h e he).symm, List.map_id']
  exact congrArg Registry.mk hm

theorem Fresh.perform_commit {r : Registry} (h : r.Fresh) (ws : List Write) (op : Operation) :
    ((r.commit ws).perform op).registry = r.commit (op.extend (r.commit ws) ws) := by
  by_cases ho : op = .reset
  · subst ho
    rw [(perform_reset _).1, commit_eq_update, update_update]
    have hf : (fun e => fresh e.issue) ∘ Entry.after ws = fun e => fresh e.issue := by
      funext e
      exact congrArg fresh (e.after_issue ws)
    rw [hf, h.update_fresh]
    rfl
  · rw [(perform_does _ ho).registry, Operation.extend_of_ne_reset ho, commit_append]

theorem Fresh.replay_commit {r : Registry} (h : r.Fresh) (ws : List Write) (ops : List Operation) :
    (r.commit ws).replay ops = r.commit (r.record ws ops) := by
  induction ops generalizing ws with
  | nil => rfl
  | cons op ops ih => rw [Registry.replay, record, h.perform_commit ws op, ih]

theorem Fresh.replay {r : Registry} (h : r.Fresh) (ops : List Operation) :
    r.replay ops = r.commit (r.record [] ops) := h.replay_commit [] ops

/-- The registry of accepted declarations after some history. -/
def Reached (ds : List Declaration) (r : Registry) : Prop :=
  ∃ r₀ ops, ofDeclarations ds = .ok r₀ ∧ r₀.replay ops = r

theorem replay_append (r : Registry) (ops ops' : List Operation) :
    r.replay (ops ++ ops') = (r.replay ops).replay ops' := by
  induction ops generalizing r with
  | nil => rfl
  | cons op ops ih => exact ih (r.perform op).registry

theorem Reached.perform {ds : List Declaration} {r : Registry} (h : Reached ds r)
    (op : Operation) : Reached ds (r.perform op).registry := by
  obtain ⟨r₀, ops, h₀, rfl⟩ := h
  exact ⟨r₀, ops ++ [op], h₀, replay_append r₀ ops [op]⟩

theorem Reached.eq_commit {ds : List Declaration} {r : Registry} (h : Reached ds r) :
    Declaration.Sound ds ∧ ∃ ws, r = (build ds).commit ws := by
  obtain ⟨r₀, ops, h₀, rfl⟩ := h
  obtain ⟨hs, rfl⟩ := ofDeclarations_eq_ok_iff.1 h₀
  exact ⟨hs, _, (fresh_build ds).replay ops⟩

/-- The entry of a declaration once the writes are done. -/
def entryAfter (ds : List Declaration) (ws : List Write) (d : Declaration) : Entry :=
  (fresh (issueOf ds d)).after ws

@[simp] theorem entryAfter_issue (ds : List Declaration) (ws : List Write) (d : Declaration) :
    (entryAfter ds ws d).issue = issueOf ds d := Entry.after_issue ws _

theorem entryAfter_eq (ds : List Declaration) (ws : List Write) (d : Declaration) :
    entryAfter ds ws d = match Write.latest? d.code ws with
      | some w => ⟨issueOf ds d, .explicit w.severity, w.userSet⟩
      | none => ⟨issueOf ds d, d.level, false⟩ := rfl

theorem entries_commit_build (ds : List Declaration) (ws : List Write) :
    ((build ds).commit ws).entries = ds.map (entryAfter ds ws) := by
  rw [commit_eq_update, update, build, List.map_map]
  rfl

theorem codes_commit_build (ds : List Declaration) (ws : List Write) :
    ((build ds).commit ws).entries.map (·.issue.code) = ds.map (·.code) := by
  rw [entries_commit_build, List.map_map]
  refine List.map_congr_left fun d _ => ?_
  simp only [Function.comp_apply, entryAfter_issue, issueOf]

/-- After any history from accepted declarations there is one entry to a declaration, in their order
and with their codes, which are distinct. The entry holds the severity and the mark of the latest
write to its code since the last reset, or the declared level and no mark if there is none. A call
fails just if its effect stops short. -/
theorem replay_entries {ds : List Declaration} {r : Registry} (h : ofDeclarations ds = .ok r)
    (ops : List Operation) :
    ((r.replay ops).entries = ds.map fun d =>
      match Write.latest? d.code (r.record [] ops) with
      | some w => ⟨issueOf ds d, .explicit w.severity, w.userSet⟩
      | none => ⟨issueOf ds d, d.level, false⟩) ∧
    (ds.map (·.code)).Nodup ∧
    ∀ op, ((r.replay ops).perform op).outcome.isOk = (op.effect (r.replay ops)).completes := by
  obtain ⟨hs, rfl⟩ := ofDeclarations_eq_ok_iff.1 h
  refine ⟨?_, hs.codes, fun op => ?_⟩
  · rw [(fresh_build ds).replay, entries_commit_build]
    exact List.map_congr_left fun d _ => entryAfter_eq ds _ d
  · by_cases ho : op = .reset
    · subst ho
      rfl
    · exact (perform_does _ ho).outcome

def sampleDeclarations : List Declaration := [
  leveled 2 "ADDED_PACKAGE" .lint .compatibility none,
  inheriting 3 "ADDED_CLASS" .compatibility "ADDED_PACKAGE",
  inheriting 30 "ADDED_INNER_CLASS" .compatibility "ADDED_CLASS",
  leveled 40 "REMOVED_PACKAGE" .warning .compatibility none]

/-- The preset of this history stops at code 4, which is no issue's. -/
def sampleHistory : List Operation := [
  .setLevel (.token (.code 40)) (.severity .error),
  .reset,
  .setSeverity (.text " 3 , none, addedclass") (.text "Hide") true,
  .applyPreset "current-compatibility",
  .setLevel (.token (.text "RemovedClass")) (.severity .info)]

theorem ofDeclarations_sample :
    ofDeclarations sampleDeclarations = .ok (build sampleDeclarations) := by decide +kernel

theorem replay_entries_sample :
    ((build sampleDeclarations).replay sampleHistory).entries.map (fun e => (e.level, e.userSet)) =
      [(.explicit .error, false), (.explicit .hidden, true), (.inherit, false),
        (.explicit .warning, false)] := by
  rw [(replay_entries ofDeclarations_sample sampleHistory).1]
  decide +kernel

def sampleState : Registry := (build sampleDeclarations).replay sampleHistory

theorem reached_sampleState : Reached sampleDeclarations sampleState :=
  ⟨_, sampleHistory, ofDeclarations_sample, rfl⟩

/-- The entry of the declaration with the code after the sample history. -/
def sampleEntry (code : Int) : Entry := (sampleState.byCode? code).getD default

end Registry

end DiagnosticCatalog
