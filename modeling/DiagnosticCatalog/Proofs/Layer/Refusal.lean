import DiagnosticCatalog.Layer.Operation
import DiagnosticCatalog.Proofs.Registry.Failure
/-!
Refusals. A change that is turned down for a level, or for an issue that there is not, leaves the
registry and all layers as they are; a batch with a level that cannot be stored is turned down
wherever in it the level stands, and for that level if it can be told.
-/

namespace DiagnosticCatalog

/-- What a request for a severity is turned down for. -/
def Failure.isRefusal : Failure → Bool
  | .level _ | .issue _ => true
  | _ => false

def Turn.isRefused (t : Turn) : Bool :=
  match t.outcome with
  | .error f => f.isRefusal
  | .ok _ => false

theorem Turn.isRefused_iff {t : Turn} :
    t.isRefused = true ↔ ∃ f, t.outcome = .error f ∧ f.isRefusal = true := by
  rw [isRefused]
  cases t.outcome <;> simp

/-- The changes that ask for severities of issues by name, in the registry or in a layer. -/
inductive Change.IsOverride : Change → Prop
  | setLevel (ref : Ref) (level : Value) : IsOverride (.registry (.setLevel ref level))
  | setSeverity (token : Token) (level : Value) (userSet : Bool) :
      IsOverride (.registry (.setSeverity token level userSet))
  | configure (requests : List (Token × Value)) (userSet : Bool) :
      IsOverride (.registry (.configure requests userSet))
  | layerSet (name : String) (ref : Ref) (level : Value) :
      IsOverride (.layer name (.set ref level))
  | layerError (name : String) (ref : Ref) : IsOverride (.layer name (.error ref))
  | layerHide (name : String) (ref : Ref) : IsOverride (.layer name (.hide ref))

namespace Registry

theorem registry_of_setLevel_error {r : Registry} {ref : Ref} {level : Value} {f : Failure}
    (h : (r.setLevel ref level).outcome = .error f) : (r.setLevel ref level).registry = r := by
  rw [setLevel] at h ⊢
  cases hs : requestedSeverity level with
  | error e => rfl
  | ok s =>
      rw [hs] at h
      cases hr : r.require ref with
      | error e => simp only [Run.fail]
      | ok e =>
          simp only [hr, write] at h
          cases h

/-- Once writing has begun a batch fails for nothing but a number with too many digits. -/
theorem registry_of_configure_error {r : Registry} {requests : List (Token × Value)}
    {userSet : Bool} {f : Failure} (h : (r.configure requests userSet).outcome = .error f)
    (hf : f.isRefusal = true) : (r.configure requests userSet).registry = r := by
  cases hb : requestedBatch requests with
  | error e => simp only [configure, hb, Run.fail]
  | ok batch =>
      rw [configure_eq hb, Run.outcome_noting] at h
      obtain ⟨e, rfl⟩ := overlong_of_applyEach h
      cases hf

theorem registry_of_setSeverity_error {r : Registry} {token : Token} {level : Value}
    {userSet : Bool} {f : Failure} (h : (r.setSeverity token level userSet).outcome = .error f)
    (hf : f.isRefusal = true) : (r.setSeverity token level userSet).registry = r := by
  obtain ⟨hregistry, houtcome⟩ := setSeverity_eq_configure r token level userSet
  rw [houtcome] at h
  rw [hregistry]
  cases hc : (r.configure [(token, level)] userSet).outcome with
  | ok missed =>
      rw [hc] at h
      cases h
  | error e =>
      rw [hc] at h
      obtain rfl := Except.error.inj h
      exact registry_of_configure_error hc hf

theorem Value.settable_of_request {token : Token} {level : Value} {p : Text × Severity}
    (h : request token level = .ok p) : level.Settable :=
  Value.settable_iff.2 ⟨p.2, (request_eq_ok_iff.1 h).2⟩

/-- One level that cannot be stored is enough, and the first of them decides. -/
theorem requestedBatch_of_unsettable {requests : List (Token × Value)}
    (htokens : ∀ q ∈ requests, q.1.value.isWritable = true)
    (hlevel : ∃ q ∈ requests, ¬q.2.Settable) : ∃ before q after f,
      requests = before ++ q :: after ∧ (∀ p ∈ before, p.2.Settable) ∧ ¬q.2.Settable ∧
        requestedSeverity q.2 = .error f ∧ requestedBatch requests = .error f := by
  cases hb : requestedBatch requests with
  | ok batch =>
      obtain ⟨q, hq, hbad⟩ := hlevel
      obtain ⟨p, hp⟩ := request_of_mem hb hq
      exact absurd (Value.settable_of_request hp) hbad
  | error f =>
      obtain ⟨before, q, after, rfl, hbefore, hfault⟩ := first_request_of_error hb
      have hspelling : q.1.spelling = .ok q.1.value.display := by
        rw [Token.spelling, if_pos (htokens q (List.mem_append_right _ List.mem_cons_self))]
      obtain ⟨e, he, _⟩ | ⟨_, hf⟩ := request_eq_error_iff.1 hfault
      · cases hspelling.symm.trans he
      · refine ⟨before, q, after, f, rfl, fun p hp => ?_, fun hq => ?_, hf, rfl⟩
        · obtain ⟨b, hb⟩ := hbefore p hp
          exact Value.settable_of_request hb
        · obtain ⟨s, hs⟩ := Value.settable_iff.1 hq
          cases hf.symm.trans hs

/-- The fault of a level that is told is that of some request. -/
theorem exists_level_of_configure_error {r : Registry} {requests : List (Token × Value)}
    {userSet : Bool} {e : LevelFault}
    (h : (r.configure requests userSet).outcome = .error (.level e)) :
    ∃ q ∈ requests, requestedSeverity q.2 = .error (.level e) := by
  cases hb : requestedBatch requests with
  | ok batch =>
      rw [configure_eq hb, Run.outcome_noting] at h
      obtain ⟨_, hf⟩ := overlong_of_applyEach h
      cases hf
  | error f =>
      simp only [configure, hb, Run.fail] at h
      obtain rfl := Except.error.inj h
      obtain ⟨before, q, after, rfl, _, hfault⟩ := first_request_of_error hb
      obtain ⟨_, _, hf⟩ | ⟨_, hf⟩ := request_eq_error_iff.1 hfault
      · cases hf
      · exact ⟨q, List.mem_append_right _ List.mem_cons_self, hf⟩

end Registry

namespace Layered

/-- A layer is replaced as a whole or not at all. -/
theorem state_of_layer_error {x : Layered} {name : String} {op : LayerOperation} {f : Failure}
    (h : (x.perform (.layer name op)).outcome = .error f) :
    (x.perform (.layer name op)).state = x := by
  rw [perform] at h ⊢
  cases hc : (x.layer name).change x.registry op with
  | error e => rfl
  | ok l =>
      rw [hc] at h
      cases h

theorem state_of_refusal {x : Layered} {c : Change} (hc : c.IsOverride)
    (h : (x.perform c).isRefused = true) : (x.perform c).state = x := by
  obtain ⟨f, h, hf⟩ := Turn.isRefused_iff.1 h
  -- What is left of a change of the registry is to see that the registry stays as it is.
  have hsame : ∀ {s : Registry}, s = x.registry → (⟨s, x.layers⟩ : Layered) = x :=
    congrArg (Layered.mk · x.layers)
  cases hc with
  | setLevel ref level =>
      exact hsame (Registry.registry_of_setLevel_error (Run.map_outcome_eq_error_iff.1 h))
  | setSeverity token level userSet =>
      exact hsame (Registry.registry_of_setSeverity_error (Run.map_outcome_eq_error_iff.1 h) hf)
  | configure requests userSet =>
      exact hsame (Registry.registry_of_configure_error (Run.map_outcome_eq_error_iff.1 h) hf)
  | layerSet name ref level => exact state_of_layer_error h
  | layerError name ref => exact state_of_layer_error h
  | layerHide name ref => exact state_of_layer_error h

theorem perform_configure_of_error {x : Layered} {requests : List (Token × Value)} {f : Failure}
    (h : Registry.requestedBatch requests = .error f) (userSet : Bool) :
    x.perform (.registry (.configure requests userSet)) = ⟨x, [], .error f⟩ := by
  have hrun : x.registry.configure requests userSet = .fail x.registry f := by
    simp only [Registry.configure, h]
  rw [perform, Registry.perform, hrun]
  rfl

/-- An override that is refused leaves registry and layers as they are. A batch whose tokens can be
written comes to nothing if any of its levels cannot be stored: the first of these decides, and it is
refused for that level unless the level holds a number with too many digits to be told. Whatever the
tokens, the fault that is told is that of one of the levels. -/
theorem refusal_changes_nothing (x : Layered) :
    (∀ c, c.IsOverride → (x.perform c).isRefused = true → (x.perform c).state = x) ∧
    ∀ requests userSet,
      let turn := x.perform (.registry (.configure requests userSet))
      ((∀ q ∈ requests, q.1.value.isWritable = true) → (∃ q ∈ requests, ¬q.2.Settable) →
        ∃ before q after, requests = before ++ q :: after ∧ (∀ p ∈ before, p.2.Settable) ∧
          ¬q.2.Settable ∧ turn.state = x ∧
          (∃ f, requestedSeverity q.2 = .error f ∧ turn.outcome = .error f) ∧
          ((∃ e, turn.outcome = .error (.level e)) ↔ q.2.isWritable = true)) ∧
      ∀ e, turn.outcome = .error (.level e) →
        ∃ q ∈ requests, requestedSeverity q.2 = .error (.level e) := by
  refine ⟨fun c hc h => state_of_refusal hc h, fun requests userSet => ⟨?_, fun e he => ?_⟩⟩
  · intro htokens hlevel
    obtain ⟨before, q, after, f, hrequests, hbefore, hq, hf, hbatch⟩ :=
      Registry.requestedBatch_of_unsettable htokens hlevel
    have hturn := perform_configure_of_error (x := x) hbatch userSet
    obtain ⟨g, hg, hwritable⟩ := Value.requestedSeverity_eq_error hq
    obtain rfl := Except.error.inj (hf.symm.trans hg)
    refine ⟨before, q, after, hrequests, hbefore, hq, by rw [hturn], ⟨f, hf, by rw [hturn]⟩, ?_⟩
    rw [hturn, ← hwritable]
    simp only [Except.error.injEq]
  · exact Registry.exists_level_of_configure_error (Run.map_outcome_eq_error_iff.1 he)

def sampleLayered : Layered := ⟨Registry.sampleState, [("draft", ⟨[(3, .info)]⟩)]⟩

/-- Three requests that are in order, one that is not, and one more that is. -/
def sampleRefused : List (Token × Value) :=
  Registry.sampleRequests ++ [(.text "AddedClass", .text "loud"), (.code 2, .severity .info)]

theorem refusal_changes_nothing_sample :
    (sampleLayered.perform (.layer "draft" (.set (.token (.code 2)) .inherit))).state =
      sampleLayered ∧
    (sampleLayered.perform (.registry (.setLevel (.token (.code 4)) (.severity .error)))).state =
      sampleLayered ∧
    (sampleLayered.perform (.registry (.configure sampleRefused true))).state = sampleLayered := by
  obtain ⟨hsame, hbatch⟩ := refusal_changes_nothing sampleLayered
  have hwritable : ∀ q ∈ sampleRefused, q.1.value.isWritable = true := by decide +kernel
  have hloud : ¬(Value.text "loud").Settable := by
    rintro (_ | h)
    have hnone : (Severity.parse "loud").toOption = none := by decide +kernel
    rw [h] at hnone
    cases hnone
  obtain ⟨_, _, _, _, _, _, hstate, _⟩ := (hbatch sampleRefused true).1 hwritable
    ⟨(.text "AddedClass", .text "loud"), by simp [sampleRefused], hloud⟩
  exact ⟨hsame _ (.layerSet ..) (by decide +kernel), hsame _ (.setLevel ..) (by decide +kernel),
    hstate⟩

/-- A level that is no severity but a number with too many digits is not told of. -/
theorem configure_overlong_level :
    let requests : List (Token × Value) := [(.text "7", .whole (Nat.pow 10 Decimal.digitLimit))]
    (∀ q ∈ requests, q.1.value.isWritable = true) ∧ (∃ q ∈ requests, ¬q.2.Settable) ∧
    ∀ e, ((ofRegistry Registry.standard).perform
      (.registry (.configure requests true))).outcome ≠ .error (.level e) := by
  intro requests
  have hoverlong : (Value.whole (Nat.pow 10 Decimal.digitLimit)).isWritable = false := by
    decide +kernel
  have htold : ∀ n : Int, requestedSeverity (.whole n) = .error (.noSeverity (.whole n)) :=
    fun _ => rfl
  have hlevel : requestedSeverity (.whole (Nat.pow 10 Decimal.digitLimit)) =
      .error (.overlong .writing) := by
    rw [htold, Failure.noSeverity, hoverlong, if_neg Bool.false_ne_true]
  have hbatch : Registry.requestedBatch requests = .error (.overlong .writing) := by
    have htoken : (Token.text "7").spelling = .ok "7" := rfl
    simp only [requests, Registry.requestedBatch_cons, Registry.request, htoken, hlevel]
    rfl
  refine ⟨List.forall_mem_singleton.2 rfl, ⟨_, List.mem_cons_self, fun h => ?_⟩, fun e he => ?_⟩
  · obtain ⟨s, hs⟩ := Value.settable_iff.1 h
    cases hlevel.symm.trans hs
  · rw [perform_configure_of_error hbatch] at he
    cases he

end Layered

end DiagnosticCatalog
