import DiagnosticCatalog.Proofs.Registry.Order
/-!
The reset. A call changes levels and marks and nothing else, so the issues of a registry are the same
throughout a session, and a reset, which makes every entry anew from its issue, leaves the registry
that the declarations made. Whatever is asked of it afterwards is answered as if nothing had been
asked before.
-/

namespace DiagnosticCatalog.Registry

/-- The registry that calls one after the other leave. -/
def afterCalls (r : Registry) : List Call → Registry
  | [] => r
  | c :: cs => afterCalls (r.call c).registry cs

theorem session_append (r : Registry) (cs cs' : List Call) :
    r.session (cs ++ cs') = r.session cs ++ (r.afterCalls cs).session cs' := by
  induction cs generalizing r with
  | nil => rfl
  | cons c cs ih => exact congrArg (r.call c :: ·) (ih (r.call c).registry)

/-! ## What calls leave alone -/

theorem issues_update {g : Entry → Entry} (hg : ∀ e, (g e).issue = e.issue) (r : Registry) :
    (r.update g).issues = r.issues := by
  rw [issues, update, List.map_map]
  exact List.map_congr_left fun e _ => hg e

/-- No operation adds an issue, takes one away or alters one, and one that fails midway does not. -/
theorem issues_perform (r : Registry) (op : Operation) :
    (r.perform op).registry.issues = r.issues := by
  by_cases ho : op = .reset
  · subst ho
    exact issues_update (g := fun e => fresh e.issue) (fun _ => rfl) r
  · rw [(perform_does r ho).registry, commit_eq_update, issues_update (Entry.after_issue _)]

theorem issues_call (r : Registry) (c : Call) : (r.call c).registry.issues = r.issues := by
  cases c with
  | ask q => rfl
  | perform op => exact issues_perform r op

theorem issues_afterCalls (r : Registry) (cs : List Call) : (r.afterCalls cs).issues = r.issues := by
  induction cs generalizing r with
  | nil => rfl
  | cons c cs ih => exact (ih (r.call c).registry).trans (issues_call r c)

/-! ## What a reset leaves -/

/-- A reset goes by the issues alone. -/
theorem registry_reset (r : Registry) : r.reset.registry = ⟨r.issues.map fresh⟩ := by
  rw [issues, List.map_map]
  rfl

theorem Fresh.reset_of_issues {r s : Registry} (h : r.Fresh) (hs : s.issues = r.issues) :
    s.reset.registry = r := by
  rw [registry_reset, hs, ← registry_reset]
  exact h.update_fresh

theorem afterCalls_reset (ds : List Declaration) (before : List Call) :
    (((build ds).afterCalls before).call (.perform .reset)).registry = build ds :=
  (fresh_build ds).reset_of_issues (issues_afterCalls (build ds) before)

/-- Whatever has been called of a registry of accepted declarations, failures and all, a reset brings
it back to what the declarations made: each issue has its declared level and no user's mark. Every
call behind the reset has the answer or failure, makes known and leaves what it would have on a
registry made anew. -/
theorem session_reset {ds : List Declaration} (h : Declaration.check ds = .ok ()) :
    ∃ r, ofDeclarations ds = .ok r ∧ ∀ before : List Call,
      let reset := (r.afterCalls before).call (.perform .reset)
      reset.outcome = .ok (.inr .done) ∧ reset.registry = r ∧
      reset.registry.entries = ds.map (fun d => ⟨issueOf ds d, d.level, false⟩) ∧
      (∀ d ∈ ds, reset.registry.byCode? d.code = some ⟨issueOf ds d, d.level, false⟩) ∧
      ∀ after, r.session (before ++ .perform .reset :: after) =
        r.session before ++ reset :: r.session after := by
  have hs := Declaration.check_eq_ok_iff.1 h
  refine ⟨build ds, ofDeclarations_eq_ok_iff.2 ⟨hs, rfl⟩, fun before => ?_⟩
  have hreset := afterCalls_reset ds before
  refine ⟨rfl, hreset, ?_, fun d hd => ?_, fun after => ?_⟩
  · rw [hreset]
    rfl
  · rw [hreset]
    exact byCode?_commit_build hs [] hd
  · rw [session_append, session, hreset]

/-- The calls before the reset have set three issues, one for a user, and failed once. -/
theorem session_reset_sample : ∃ r, ofDeclarations sampleDeclarations = .ok r ∧
    ((r.afterCalls sampleCalls).entries.map fun e => (e.level, e.userSet)) =
      [(.explicit .error, false), (.explicit .error, false), (.explicit .warning, true),
        (.explicit .warning, false)] ∧
    (r.session (sampleCalls ++ .perform .reset :: sampleCalls)).drop 6 = r.session sampleCalls := by
  have hcheck : Declaration.check sampleDeclarations = .ok () := by decide +kernel
  obtain ⟨r, hr, hreset⟩ := session_reset hcheck
  obtain ⟨_, _, _, _, hsession⟩ := hreset sampleCalls
  refine ⟨r, hr, ?_, ?_⟩
  · obtain ⟨_, rfl⟩ := ofDeclarations_eq_ok_iff.1 hr
    decide +kernel
  · rw [hsession]
    rfl

end DiagnosticCatalog.Registry
