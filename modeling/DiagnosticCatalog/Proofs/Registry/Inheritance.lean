import DiagnosticCatalog.Proofs.Registry.History
/-!
Inherited severities. In every state after a history the walk along parents from an entry without a
severity ends at one with a severity, and that severity is the effective one. A new level of an issue
takes effect for the entries whose walks pass the issue, and for no others.
-/

namespace DiagnosticCatalog.Registry

open Descent

/-- The entry that decides instead: the parent's, where the stored level is inherited. -/
def heir? (r : Registry) (e : Entry) : Option Entry :=
  match e.level with
  | .explicit _ => none
  | .inherit => r.parentOf? e.issue

theorem heir?_of_inherit {r : Registry} {e : Entry} (h : e.level = .inherit) :
    r.heir? e = r.parentOf? e.issue := by
  rw [heir?, h]

theorem heir?_of_explicit {r : Registry} {e : Entry} {s : Severity} (h : e.level = .explicit s) :
    r.heir? e = none := by
  rw [heir?, h]

theorem heir?_update {g : Entry → Entry} (hg : ∀ e, (g e).issue = e.issue) (r : Registry)
    (e : Entry) : (r.update g).heir? e = (r.heir? e).map g := by
  unfold heir?
  cases e.level with
  | explicit s => rfl
  | inherit => exact parentOf?_update hg r e.issue

/-- The walk from the entry ends at one that stores the severity. -/
def Settles (r : Registry) (e : Entry) (s : Severity) : Prop :=
  ∃ n f, Leads r.heir? n e f ∧ f.level = .explicit s

theorem Settles.of_explicit {r : Registry} {e : Entry} {s : Severity} (h : e.level = .explicit s) :
    r.Settles e s := ⟨0, e, .stop (heir?_of_explicit h), h⟩

theorem Settles.of_heir {r : Registry} {e f : Entry} {s : Severity} (h : r.heir? e = some f)
    (hf : r.Settles f s) : r.Settles e s := by
  obtain ⟨n, g, hl, hg⟩ := hf
  exact ⟨n + 1, g, .step h hl, hg⟩

/-- Every issue has a code of its own, and every walk ends at a severity. -/
structure Resolvable (r : Registry) : Prop where
  codes : (r.entries.map (·.issue.code)).Nodup
  settles : ∀ e ∈ r.entries, ∃ s, r.Settles e s

theorem mem_of_heir? {r : Registry} {e f : Entry} (h : r.heir? e = some f) : f ∈ r.entries := by
  unfold heir? at h
  cases hl : e.level with
  | explicit s =>
      rw [hl] at h
      cases h
  | inherit =>
      rw [hl] at h
      obtain ⟨c, _, hc⟩ := Option.bind_eq_some_iff.1 h
      exact (mem_of_byCode? hc).1

/-! ## The climb -/

theorem climb_explicit {r : Registry} {e : Entry} {s : Severity} (h : e.level = .explicit s)
    (seen : List Int) : r.climb seen e = .ok s := by
  rw [climb, h]

theorem climb_parent {r : Registry} {e p : Entry} (h : e.level = .inherit)
    (hp : r.parentOf? e.issue = some p) (seen : List Int) :
    r.climb seen e =
      if p.issue.code ∈ seen then .error (.telling p.issue.code (.loop p.issue.title))
      else r.climb (p.issue.code :: seen) p := by
  rw [climb, h]
  simp only
  split
  · rename_i hf
    cases hp.symm.trans hf
  · rename_i hf
    obtain rfl := Option.some.inj (hp.symm.trans hf)
    rfl

theorem climb_of_leads {r : Registry} (hr : (r.entries.map (·.issue.code)).Nodup) {n : Nat}
    {e f : Entry} {s : Severity} (hl : Leads r.heir? n e f) (hf : f.level = .explicit s)
    {seen : List Int} (hs : Behind r.heir? r.byCode? n seen) : r.climb seen e = .ok s := by
  induction hl generalizing seen with
  | stop _ => exact climb_explicit hf seen
  | @step e p f n hep hl ih =>
      have hp : r.byCode? p.issue.code = some p := byCode?_of_mem hr (mem_of_heir? hep)
      cases hlevel : e.level with
      | explicit t =>
          rw [heir?_of_explicit hlevel] at hep
          cases hep
      | inherit =>
          rw [heir?_of_inherit hlevel] at hep
          rw [climb_parent hlevel hep, if_neg (hs.not_mem hp hl)]
          exact ih hf (hs.cons hp hl)

/-- Where codes are distinct, the effective severity is the one that the walk ends at. -/
theorem effective_of_settles {r : Registry} (hr : (r.entries.map (·.issue.code)).Nodup) {e : Entry}
    (he : e ∈ r.entries) {s : Severity} (hs : r.Settles e s) : r.effective e = .ok s := by
  obtain ⟨n, f, hl, hf⟩ := hs
  exact climb_of_leads hr hl hf (.singleton (byCode?_of_mem hr he) hl)

/-- An entry that inherits has its parent among the entries, and has what the parent has. -/
theorem Resolvable.exists_parent {r : Registry} (hr : r.Resolvable) {e : Entry}
    (he : e ∈ r.entries) (hl : e.level = .inherit) {t : Severity} (ht : r.effective e = .ok t) :
    ∃ q ∈ r.entries, r.parentOf? e.issue = some q ∧ e.issue.parentCode? = some q.issue.code ∧
      r.effective q = .ok t := by
  obtain ⟨s, n, f, hlead, hf⟩ := hr.settles e he
  obtain rfl := Except.ok.inj
    (ht.symm.trans (effective_of_settles hr.codes he ⟨n, f, hlead, hf⟩))
  cases hlead with
  | stop _ => cases hf.symm.trans hl
  | @step _ q _ n hq hlead =>
      have hmem := mem_of_heir? hq
      rw [heir?_of_inherit hl] at hq
      obtain ⟨c, hc, hfound⟩ := Option.bind_eq_some_iff.1 hq
      rw [← (mem_of_byCode? hfound).2] at hc
      exact ⟨q, hmem, hq, hc, effective_of_settles hr.codes hmem ⟨n, f, hlead, hf⟩⟩

theorem effectiveOf_of_settles {r : Registry} (hr : (r.entries.map (·.issue.code)).Nodup)
    {e : Entry} (he : e ∈ r.entries) {s : Severity} (hs : r.Settles e s) {ref : Ref}
    (href : r.require ref = .ok e) : r.effectiveOf ref = .ok s := by
  rw [effectiveOf, href]
  simp only [effective_of_settles hr he hs]

/-- An update of all entries makes effective what the walks in the new state end at. -/
theorem effectiveOf_update {g : Entry → Entry} (hg : ∀ e, (g e).issue = e.issue) {r : Registry}
    (hr : (r.entries.map (·.issue.code)).Nodup) {ref : Ref} {e : Entry}
    (href : r.require ref = .ok e) {s : Severity} (hs : (r.update g).Settles (g e) s) :
    (r.update g).effectiveOf ref = .ok s := by
  have hmem : g e ∈ (r.update g).entries := List.mem_map_of_mem (mem_of_require href)
  have hnew : (r.update g).require ref = .ok (g e) := by
    rw [require_update hg, href]
    rfl
  exact effectiveOf_of_settles (codes_update hg r ▸ hr) hmem hs hnew

/-! ## States after a history -/

theorem byCode?_commit_build {ds : List Declaration} (hs : Declaration.Sound ds) (ws : List Write)
    {d : Declaration} (hd : d ∈ ds) :
    ((build ds).commit ws).byCode? d.code = some (entryAfter ds ws d) := by
  have hc := codes_commit_build ds ws ▸ hs.codes
  have hm : entryAfter ds ws d ∈ ((build ds).commit ws).entries :=
    entries_commit_build ds ws ▸ List.mem_map_of_mem hd
  have hcode : (entryAfter ds ws d).issue.code = d.code := by rw [entryAfter_issue]; rfl
  exact hcode ▸ byCode?_of_mem hc hm

theorem parentOf?_commit_build {ds : List Declaration} (hs : Declaration.Sound ds)
    (ws : List Write) (d : Declaration) :
    ((build ds).commit ws).parentOf? (issueOf ds d) =
      (d.parent?.bind (Declaration.find? ds)).map (entryAfter ds ws) := by
  unfold parentOf? issueOf
  cases hp : d.parent?.bind (Declaration.find? ds) with
  | none => rfl
  | some p =>
      obtain ⟨_, _, hf⟩ := Option.bind_eq_some_iff.1 hp
      exact byCode?_commit_build hs ws (List.mem_of_find?_eq_some hf)

/-- A stored level is inherited only where it was declared so and nothing was written. -/
theorem inherit_of_entryAfter {ds : List Declaration} {ws : List Write} {d : Declaration}
    (h : (entryAfter ds ws d).level = .inherit) :
    d.level = .inherit ∧ (entryAfter ds ws d).userSet = false := by
  rw [entryAfter_eq] at h ⊢
  cases hw : Write.latest? d.code ws with
  | none =>
      rw [hw] at h
      exact ⟨h, rfl⟩
  | some w =>
      rw [hw] at h
      cases h

/-- A walk among declarations is one among entries, which may end early. -/
theorem settles_of_leads {ds : List Declaration} (hs : Declaration.Sound ds) (ws : List Write)
    {n : Nat} {d e : Declaration} {s : Severity} (hl : Leads (Declaration.heir? ds) n d e)
    (he : e.level = .explicit s) : ∃ t, ((build ds).commit ws).Settles (entryAfter ds ws d) t := by
  induction hl with
  | @stop d _ =>
      cases hlevel : (entryAfter ds ws d).level with
      | explicit t => exact ⟨t, .of_explicit hlevel⟩
      | inherit => exact absurd (he.symm.trans (inherit_of_entryAfter hlevel).1) (by simp)
  | @step d f e n hdf hl ih =>
      cases hlevel : (entryAfter ds ws d).level with
      | explicit t => exact ⟨t, .of_explicit hlevel⟩
      | inherit =>
          obtain ⟨t, ht⟩ := ih he
          rw [Declaration.heir?_of_inherit (inherit_of_entryAfter hlevel).1] at hdf
          refine ⟨t, .of_heir ?_ ht⟩
          rw [heir?_of_inherit hlevel, entryAfter_issue, parentOf?_commit_build hs, hdf]
          rfl

theorem resolvable_commit_build {ds : List Declaration} (hs : Declaration.Sound ds)
    (ws : List Write) : ((build ds).commit ws).Resolvable := by
  refine ⟨codes_commit_build ds ws ▸ hs.codes, fun e he => ?_⟩
  rw [entries_commit_build] at he
  obtain ⟨d, hd, rfl⟩ := List.mem_map.1 he
  obtain ⟨n, f, s, hl, hf⟩ := hs.grounded d hd
  exact settles_of_leads hs ws hl hf

theorem Reached.resolvable {ds : List Declaration} {r : Registry} (h : Reached ds r) :
    r.Resolvable := by
  obtain ⟨hs, ws, rfl⟩ := h.eq_commit
  exact resolvable_commit_build hs ws

theorem Reached.declared_of_inherit {ds : List Declaration} {r : Registry} (h : Reached ds r)
    {e : Entry} (he : e ∈ r.entries) (hl : e.level = .inherit) :
    (∃ d ∈ ds, e.issue = issueOf ds d ∧ d.level = .inherit) ∧ e.userSet = false := by
  obtain ⟨_, ws, rfl⟩ := h.eq_commit
  rw [entries_commit_build] at he
  obtain ⟨d, hd, rfl⟩ := List.mem_map.1 he
  obtain ⟨hdl, hu⟩ := inherit_of_entryAfter hl
  exact ⟨⟨d, hd, entryAfter_issue ds ws d, hdl⟩, hu⟩

/-- In every state after a history each issue has an effective severity, under whatever reference it
is asked for: the stored severity of the first entry on its walk that does not inherit. An entry that
inherits was declared so, and no user has set it. -/
theorem Reached.effectiveOf_eq_ok {ds : List Declaration} {r : Registry} (h : Reached ds r)
    {e : Entry} (he : e ∈ r.entries) :
    (∃ f s, Reaches r.heir? e f ∧ f.level = .explicit s ∧ r.require (.member e.issue) = .ok e ∧
      ∀ ref, r.require ref = .ok e → r.effectiveOf ref = .ok s) ∧
    (e.level = .inherit →
      (∃ d ∈ ds, e.issue = issueOf ds d ∧ d.level = .inherit) ∧ e.userSet = false) := by
  have hr := h.resolvable
  obtain ⟨s, n, f, hl, hf⟩ := hr.settles e he
  refine ⟨⟨f, s, hl.reaches, hf, require_member hr.codes he, fun ref href => ?_⟩,
    h.declared_of_inherit he⟩
  exact effectiveOf_of_settles hr.codes he ⟨n, f, hl, hf⟩ href

theorem Reached.effectiveOf_eq_ok_sample :
    ∃ f s, Reaches sampleState.heir? (sampleEntry 30) f ∧ f.level = .explicit s ∧
      sampleState.effectiveOf (.token (.text "AddedInnerClass")) = .ok s := by
  have he : sampleEntry 30 ∈ sampleState.entries := by decide +kernel
  obtain ⟨⟨f, s, hf, hs, _, h⟩, _⟩ := reached_sampleState.effectiveOf_eq_ok he
  exact ⟨f, s, hf, hs, h _ (require_of_resolve (by decide +kernel))⟩

/-! ## The effect of a new level -/

section

variable {r : Registry} {j : Entry} {s : Severity} {userSet : Bool}

theorem code_ne_of_not_reaches (hr : (r.entries.map (·.issue.code)).Nodup) (hj : j ∈ r.entries)
    {e : Entry} (he : e ∈ r.entries) (hn : ¬Reaches r.heir? e j) :
    e.issue.code ≠ j.issue.code := by
  intro hc
  obtain rfl := eq_of_code hr he hj hc
  exact hn .refl

theorem heir?_put (w : Write) (e : Entry) :
    (r.put w).heir? e = (r.heir? e).map (Entry.after [w]) := by
  rw [put_eq_update, heir?_update (Entry.after_issue [w])]

theorem settles_put_of_reaches {e : Entry} (h : Reaches r.heir? e j) :
    (r.put ⟨j.issue.code, s, userSet⟩).Settles (e.after [⟨j.issue.code, s, userSet⟩]) s := by
  induction h using Relation.ReflTransGen.head_induction_on with
  | refl => exact .of_explicit (Entry.level_after_singleton rfl)
  | @head e p hep _ ih =>
      by_cases hc : e.issue.code = j.issue.code
      · exact .of_explicit (Entry.level_after_singleton hc)
      · rw [Entry.after_singleton_of_ne hc]
        refine .of_heir ?_ ih
        rw [heir?_put, hep]
        rfl

theorem settles_put_of_not_reaches (hr : (r.entries.map (·.issue.code)).Nodup)
    (hj : j ∈ r.entries) {e : Entry} (he : e ∈ r.entries) (hn : ¬Reaches r.heir? e j)
    {t : Severity} (ht : r.Settles e t) :
    (r.put ⟨j.issue.code, s, userSet⟩).Settles (e.after [⟨j.issue.code, s, userSet⟩]) t := by
  obtain ⟨n, f, hl, hf⟩ := ht
  induction hl with
  | @stop e hstop =>
      have hc := code_ne_of_not_reaches hr hj he hn
      rw [Entry.after_singleton_of_ne hc]
      exact .of_explicit hf
  | @step e p f n hep hl ih =>
      have hc := code_ne_of_not_reaches hr hj he hn
      rw [Entry.after_singleton_of_ne hc]
      refine .of_heir ?_ (ih (mem_of_heir? hep) (fun hpj => hn (.head hep hpj)) hf)
      rw [heir?_put, hep]
      rfl

/-- After a write the effective severity of an issue is the one that its updated entry settles for. -/
theorem effectiveOf_put (hr : (r.entries.map (·.issue.code)).Nodup) {e : Entry}
    (he : e ∈ r.entries) {w : Write} {t : Severity} (ht : (r.put w).Settles (e.after [w]) t) :
    (r.put w).effectiveOf (.member e.issue) = .ok t := by
  rw [put_eq_update] at ht ⊢
  exact effectiveOf_update (Entry.after_issue [w]) hr (require_member hr he) ht

theorem Resolvable.settles_put (hr : r.Resolvable) (hj : j ∈ r.entries) {e : Entry}
    (he : e ∈ r.entries) : ∃ t, (r.put ⟨j.issue.code, s, userSet⟩).Settles
      (e.after [⟨j.issue.code, s, userSet⟩]) t := by
  by_cases hp : Reaches r.heir? e j
  · exact ⟨s, settles_put_of_reaches hp⟩
  · obtain ⟨t, ht⟩ := hr.settles e he
    exact ⟨t, settles_put_of_not_reaches hr.codes hj he hp ht⟩

/-- An entry that is not itself written and inherits goes on following its parent. -/
theorem Resolvable.effectiveOf_put_heir (hr : r.Resolvable) (hj : j ∈ r.entries) {e p : Entry}
    (he : e ∈ r.entries) (hc : e.issue.code ≠ j.issue.code) (hep : r.heir? e = some p) :
    (r.put ⟨j.issue.code, s, userSet⟩).effectiveOf (.member e.issue) =
      (r.put ⟨j.issue.code, s, userSet⟩).effectiveOf (.member p.issue) := by
  have hp := mem_of_heir? hep
  obtain ⟨t, ht⟩ := hr.settles_put hj hp
  rw [effectiveOf_put hr.codes hp ht]
  refine effectiveOf_put hr.codes he ?_
  rw [Entry.after_singleton_of_ne hc]
  refine .of_heir ?_ ht
  rw [heir?_put, hep]
  rfl

end

theorem setLevel_eq_put {r : Registry} {ref : Ref} {level : Value} {s : Severity} {j : Entry}
    (hlevel : requestedSeverity level = .ok s) (href : r.require ref = .ok j) :
    (r.setLevel ref level).registry = r.put ⟨j.issue.code, s, true⟩ ∧
      (r.setLevel ref level).outcome = .ok () := by
  simp only [setLevel, hlevel, href, write, put, and_self]

/-- In every state after a history, setting the level of an issue decides the effective severity of
the entries whose walks pass that issue, and leaves that of all others as it was. So an entry that
still inherits has what its parent has, and one with a level of its own keeps it. -/
theorem Reached.effectiveOf_setLevel {ds : List Declaration} {r : Registry} (h : Reached ds r)
    {ref : Ref} {level : Value} {s : Severity} {j : Entry}
    (hlevel : requestedSeverity level = .ok s) (href : r.require ref = .ok j) :
    (r.setLevel ref level).outcome = .ok () ∧ ∀ e ∈ r.entries,
      (Reaches r.heir? e j →
        (r.setLevel ref level).registry.effectiveOf (.member e.issue) = .ok s) ∧
      (¬Reaches r.heir? e j → ∃ t, r.effectiveOf (.member e.issue) = .ok t ∧
        (r.setLevel ref level).registry.effectiveOf (.member e.issue) = .ok t) ∧
      (∀ p, e ≠ j → e.level = .inherit → r.parentOf? e.issue = some p →
        (r.setLevel ref level).registry.effectiveOf (.member e.issue) =
          (r.setLevel ref level).registry.effectiveOf (.member p.issue)) ∧
      (∀ t, e ≠ j → e.level = .explicit t →
        (r.setLevel ref level).registry.effectiveOf (.member e.issue) = .ok t) := by
  have hr := h.resolvable
  have hj := mem_of_require href
  obtain ⟨hput, hok⟩ := setLevel_eq_put hlevel href
  rw [hput]
  have hne {e : Entry} (he : e ∈ r.entries) (hej : e ≠ j) : e.issue.code ≠ j.issue.code :=
    fun hc => hej (eq_of_code hr.codes he hj hc)
  refine ⟨hok, fun e he => ⟨fun hp => ?_, fun hn => ?_, fun p hej hl hp => ?_, fun t hej hl => ?_⟩⟩
  · exact effectiveOf_put hr.codes he (settles_put_of_reaches hp)
  · obtain ⟨t, ht⟩ := hr.settles e he
    refine ⟨t, effectiveOf_of_settles hr.codes he ht (require_member hr.codes he), ?_⟩
    exact effectiveOf_put hr.codes he (settles_put_of_not_reaches hr.codes hj he hn ht)
  · exact hr.effectiveOf_put_heir hj he (hne he hej) (heir?_of_inherit hl ▸ hp)
  · refine effectiveOf_put hr.codes he ?_
    rw [Entry.after_singleton_of_ne (hne he hej)]
    exact .of_explicit hl

/-- The heir of the entry that is set follows it; its parent stays as it was. -/
theorem Reached.effectiveOf_setLevel_sample :
    let r := (sampleState.setLevel (.token (.text "addedclass")) (.severity .info)).registry
    r.effectiveOf (.member (sampleEntry 30).issue) = .ok .info ∧
      r.effectiveOf (.member (sampleEntry 2).issue) = .ok .error := by
  intro r
  have hlevel : requestedSeverity (.severity .info) = .ok .info := rfl
  have href : sampleState.require (.token (.text "addedclass")) = .ok (sampleEntry 3) :=
    require_of_resolve (by decide +kernel)
  obtain ⟨_, h⟩ := reached_sampleState.effectiveOf_setLevel hlevel href
  have hinner : Reaches sampleState.heir? (sampleEntry 30) (sampleEntry 3) :=
    .head (show sampleState.heir? (sampleEntry 30) = some (sampleEntry 3) by decide +kernel) .refl
  constructor
  · exact (h (sampleEntry 30) (by decide +kernel)).1 hinner
  · exact (h (sampleEntry 2) (by decide +kernel)).2.2.2 .error (by decide +kernel) (by decide +kernel)

end DiagnosticCatalog.Registry
