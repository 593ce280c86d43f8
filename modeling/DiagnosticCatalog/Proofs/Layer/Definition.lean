import DiagnosticCatalog.Layer.Query
import DiagnosticCatalog.Proofs.Layer.Refusal
import DiagnosticCatalog.Proofs.Registry.Reset
/-!
Definitions as references. Whatever a definition is used for but to ask whether it is itself one of
the registry's, its code alone counts: a definition made elsewhere, with another name, level or
parent under a code, does what the registry's own does and what the code does. An unknown code is
refused with the definition that was given, and leaves everything as it is.
-/

namespace DiagnosticCatalog

/-! ## What references have in common -/

namespace Ref

def definition? : Ref → Option Issue
  | .token _ => none
  | .member i | .foreign i => some i

/-- The code that a reference carries. A text carries none, even one that reads as a number. -/
def code? : Ref → Option Int
  | .token (.code n) => some n
  | .token _ => none
  | .member i | .foreign i => some i.code

theorem code?_of_definition? {a : Ref} {i : Issue} (h : a.definition? = some i) :
    a.code? = some i.code := by
  cases a with
  | token t => cases h
  | member j | foreign j => exact congrArg (Option.map Issue.code) h

end Ref

/-- What a reference is used for where it need not be the registry's own definition. -/
inductive RefUse
  | level
  | inherits
  | userSet
  | effective
  | describe
  | setLevel (level : Value)
  | set (layer : String) (level : Value)
  | error (layer : String)
  | hide (layer : String)
  | severityOf (layer : String)
  | contains (layer : String)

def RefUse.call (ref : Ref) : RefUse → LayeredCall
  | level => .ask (.level ref)
  | inherits => .ask (.inherits ref)
  | userSet => .ask (.userSet ref)
  | effective => .ask (.effective ref)
  | describe => .ask (.describe ref)
  | setLevel l => .perform (.registry (.setLevel ref l))
  | set layer l => .perform (.layer layer (.set ref l))
  | error layer => .perform (.layer layer (.error ref))
  | hide layer => .perform (.layer layer (.hide ref))
  | severityOf layer => .askLayer layer (.severityOf ref)
  | contains layer => .askLayer layer (.contains ref)

namespace Registry

/-- References with one code: a number and definitions in any way if the registry has the code, else
only definitions. -/
inductive SameCode (r : Registry) : Ref → Ref → Prop
  | known {a b : Ref} {c : Int} (ha : a.code? = some c) (hb : b.code? = some c)
      (hc : (r.byCode? c).isSome = true) : SameCode r a b
  | definitions {a b : Ref} {i j : Issue} (ha : a.definition? = some i)
      (hb : b.definition? = some j) (hcode : i.code = j.code) : SameCode r a b

variable {r : Registry} {a b : Ref}

theorem require_of_code? {c : Int} {e : Entry} (ha : a.code? = some c)
    (he : r.byCode? c = some e) : r.require a = .ok e := by
  cases a with
  | token t =>
      cases t with
      | code n =>
          obtain rfl := Option.some.inj ha
          simp only [require, resolve, he]
      | text s => cases ha
      | truth b => cases ha
  | member i | foreign i =>
      obtain rfl := Option.some.inj ha
      simp only [require, he]

theorem require_of_definition? {i : Issue} (ha : a.definition? = some i)
    (hi : r.byCode? i.code = none) : r.require a = .error (.unknown (.definition i)) := by
  cases a with
  | token t => cases ha
  | member j | foreign j =>
      obtain rfl := Option.some.inj ha
      simp only [require, hi]

theorem isSome_byCode?_of_issues {s : Registry} (h : s.issues = r.issues) (c : Int) :
    (s.byCode? c).isSome = (r.byCode? c).isSome := by
  have hany : ∀ t : Registry, (t.byCode? c).isSome = t.issues.any (·.code = c) := fun t => by
    rw [byCode?, issues, List.any_map, List.isSome_find?]
    rfl
  rw [hany, hany, h]

/-- Levels and marks have no part in it. -/
theorem SameCode.of_issues {s : Registry} (h : r.SameCode a b) (hs : s.issues = r.issues) :
    s.SameCode a b := by
  cases h with
  | known ha hb hc => exact .known ha hb ((isSome_byCode?_of_issues hs _).trans hc)
  | definitions ha hb hcode => exact .definitions ha hb hcode

end Registry

/-! ## Replies -/

/-- Outcomes that differ at most in the definition for which an unknown issue is reported. -/
inductive SameOutcome {α : Type} : Except Failure α → Except Failure α → Prop
  | same (o : Except Failure α) : SameOutcome o o
  | unknown {i j : Issue} (hcode : i.code = j.code) :
      SameOutcome (.error (.issue (.definition i))) (.error (.issue (.definition j)))

/-- What may keep a definition from being told is its code, and that is the same. -/
theorem SameOutcome.unknown_definition {i j : Issue} (hcode : i.code = j.code) (α : Type) :
    SameOutcome (.error (.unknown (.definition i)) : Except Failure α)
      (.error (.unknown (.definition j))) := by
  rw [Failure.unknown, Failure.unknown, UnknownIssue.isWritable, UnknownIssue.isWritable, hcode]
  cases hw : Decimal.isWritable j.code with
  | true =>
      rw [if_pos rfl, if_pos rfl]
      exact .unknown hcode
  | false =>
      rw [if_neg Bool.false_ne_true, if_neg Bool.false_ne_true]
      exact .same _

structure Reply.Agrees (p q : Reply) : Prop where
  state : p.state = q.state
  log : p.log = q.log
  outcome : SameOutcome p.outcome q.outcome

theorem Reply.Agrees.refl (p : Reply) : p.Agrees p := ⟨rfl, rfl, .same _⟩

namespace Layer

variable {r : Registry} {l : Layer} {a : Ref}

theorem contains_of_definition? {i : Issue} (ha : a.definition? = some i) :
    l.contains r a = .ok (l.holds i.code) := by
  cases a with
  | token t => cases ha
  | member j | foreign j =>
      obtain rfl := Option.some.inj ha
      rfl

theorem contains_of_code? {c : Int} (ha : a.code? = some c)
    (hc : (r.byCode? c).isSome = true) : l.contains r a = .ok (l.holds c) := by
  obtain ⟨e, he⟩ := Option.isSome_iff_exists.1 hc
  cases a with
  | token t =>
      cases t with
      | code n =>
          obtain rfl := Option.some.inj ha
          simp only [contains, Registry.resolve, he, Option.any_some,
            (Registry.mem_of_byCode? he).2]
      | text s => cases ha
      | truth b => cases ha
  | member i | foreign i =>
      obtain rfl := Option.some.inj ha
      rfl

end Layer

namespace Layered

variable {x : Layered} {a b : Ref}

/-- Where two references lead to one entry they can stand for each other. Whether a layer contains
them is seen without the registry's entry. -/
theorem call_eq_of_require (h : x.registry.require a = x.registry.require b)
    (hcontains : ∀ l : Layer, l.contains x.registry a = l.contains x.registry b) (use : RefUse) :
    x.call (use.call a) = x.call (use.call b) := by
  cases use with
  | level | inherits | userSet | describe =>
      simp only [RefUse.call, call, Registry.ask, h]
  | effective => simp only [RefUse.call, call, Registry.ask, Registry.effectiveOf, h]
  | setLevel level =>
      simp only [RefUse.call, call, perform, Registry.perform, Registry.setLevel, h]
  | set name level | error name | hide name =>
      simp only [RefUse.call, call, perform, Layer.change, Layer.set, h]
  | severityOf name => simp only [RefUse.call, call, Layer.ask, Layer.severityOf, h]
  | contains name => simp only [RefUse.call, call, Layer.ask, hcontains]

/-- What is told of an unknown code is the definition at most: a level that cannot be stored is
turned down before it is looked up. -/
theorem agrees_of_unknown {i j : Issue} (ha : a.definition? = some i) (hb : b.definition? = some j)
    (hcode : i.code = j.code) (hi : x.registry.byCode? i.code = none) (use : RefUse) :
    (x.call (use.call a)).Agrees (x.call (use.call b)) := by
  have hra := Registry.require_of_definition? ha hi
  have hrb := Registry.require_of_definition? hb (hcode ▸ hi)
  have hsame := SameOutcome.unknown_definition hcode
  generalize Failure.unknown (.definition i) = f at hra hsame
  generalize Failure.unknown (.definition j) = g at hrb hsame
  cases use with
  | level | inherits | userSet | describe =>
      simp only [RefUse.call, call, Registry.ask, hra, hrb]
      exact ⟨rfl, rfl, hsame _⟩
  | effective =>
      simp only [RefUse.call, call, Registry.ask, Registry.effectiveOf, hra, hrb]
      exact ⟨rfl, rfl, hsame _⟩
  | setLevel level =>
      simp only [RefUse.call, call, perform, Registry.perform, Registry.setLevel, hra, hrb]
      cases requestedSeverity level with
      | error e => exact .refl _
      | ok s => exact ⟨rfl, rfl, hsame _⟩
  | set name level | error name | hide name =>
      simp only [RefUse.call, call, perform, Layer.change, Layer.set, hra, hrb]
      exact ⟨rfl, rfl, hsame _⟩
  | severityOf name =>
      simp only [RefUse.call, call, Layer.ask, Layer.severityOf, hra, hrb]
      exact ⟨rfl, rfl, hsame _⟩
  | contains name =>
      simp only [RefUse.call, call, Layer.ask, Layer.contains_of_definition? ha,
        Layer.contains_of_definition? hb, hcode]
      exact .refl _

/-- A known code is all that counts, and nothing tells the references apart. -/
theorem call_eq_of_known {c : Int} (ha : a.code? = some c) (hb : b.code? = some c)
    (hc : (x.registry.byCode? c).isSome = true) (use : RefUse) :
    x.call (use.call a) = x.call (use.call b) := by
  obtain ⟨e, he⟩ := Option.isSome_iff_exists.1 hc
  refine call_eq_of_require ?_ (fun l => ?_) use
  · rw [Registry.require_of_code? ha he, Registry.require_of_code? hb he]
  · rw [Layer.contains_of_code? ha hc, Layer.contains_of_code? hb hc]

theorem agrees_of_sameCode (h : x.registry.SameCode a b) (use : RefUse) :
    (x.call (use.call a)).Agrees (x.call (use.call b)) := by
  cases h with
  | known ha hb hc =>
      rw [call_eq_of_known ha hb hc use]
      exact .refl _
  | @definitions i _ ha hb hcode =>
      cases hi : x.registry.byCode? i.code with
      | none => exact agrees_of_unknown ha hb hcode hi use
      | some e =>
          have hb' : b.code? = some i.code := hcode ▸ Ref.code?_of_definition? hb
          rw [call_eq_of_known (Ref.code?_of_definition? ha) hb' (by rw [hi]; rfl) use]
          exact .refl _

/-! ## Sessions -/

/-- Calls that differ at most in a reference, which is put to the same use. -/
inductive Interchanged (r : Registry) : LayeredCall → LayeredCall → Prop
  | same (c : LayeredCall) : Interchanged r c c
  | ref (use : RefUse) {a b : Ref} (h : r.SameCode a b) :
      Interchanged r (use.call a) (use.call b)

theorem Interchanged.of_issues {r s : Registry} {c d : LayeredCall} (h : Interchanged r c d)
    (hs : s.issues = r.issues) : Interchanged s c d := by
  cases h with
  | same => exact .same c
  | ref use h => exact .ref use (h.of_issues hs)

theorem Interchanged.agrees {c d : LayeredCall} (h : Interchanged x.registry c d) :
    (x.call c).Agrees (x.call d) := by
  cases h with
  | same => exact .refl _
  | ref use h => exact agrees_of_sameCode h use

theorem issues_call (x : Layered) (c : LayeredCall) :
    (x.call c).state.registry.issues = x.registry.issues := by
  cases c with
  | ask q => rfl
  | askLayer name q => rfl
  | perform c =>
      cases c with
      | registry op => exact Registry.issues_perform x.registry op
      | layer name op =>
          simp only [call, perform]
          cases (x.layer name).change x.registry op <;> rfl

/-- The states stay equal all along, so the next calls are again compared in one state. -/
theorem session_interchanged {calls calls' : List LayeredCall}
    (h : List.Forall₂ (Interchanged x.registry) calls calls') :
    List.Forall₂ Reply.Agrees (x.session calls) (x.session calls') := by
  induction calls generalizing x calls' with
  | nil =>
      cases h
      exact .nil
  | cons c cs ih =>
      cases h with
      | @cons _ d _ ds hcd hrest =>
          have hagrees := hcd.agrees
          refine .cons hagrees ?_
          rw [← hagrees.state]
          exact ih (hrest.imp fun _ _ h => h.of_issues (issues_call x c))

/-- Two definitions of one code, whatever else they say, have the same reply in every state and leave
the same state behind, whichever of the uses they are put to; but an unknown code is refused with the
definition that was given. Where the registry has the code, the code itself has that reply too. So it
is for whole sessions: put the one for the other in any of the calls, and each call is replied to as
before. -/
theorem definition_counts_by_code (x : Layered) :
    (∀ a b i j, a.definition? = some i → b.definition? = some j → i.code = j.code →
      ∀ use : RefUse, (x.call (use.call a)).Agrees (x.call (use.call b))) ∧
    (∀ a i, a.definition? = some i → (x.registry.byCode? i.code).isSome = true →
      ∀ use : RefUse, x.call (use.call a) = x.call (use.call (.token (.code i.code)))) ∧
    ∀ calls calls', List.Forall₂ (Interchanged x.registry) calls calls' →
      List.Forall₂ Reply.Agrees (x.session calls) (x.session calls') :=
  ⟨fun _ _ _ _ ha hb hcode use => agrees_of_sameCode (.definitions ha hb hcode) use,
    fun _ _ ha hc use => call_eq_of_known (Ref.code?_of_definition? ha) rfl hc use,
    fun _ _ h => session_interchanged h⟩

/-- The code of an issue that inherits, with another name, a level and another parent. -/
def forged : Issue :=
  { (Registry.sampleEntry 30).issue with
    name := "Forged"
    defaultLevel := .explicit .error
    parentCode? := some 40 }

theorem definition_counts_by_code_sample :
    let own := (Registry.sampleEntry 30).issue
    forged ≠ own ∧
    sampleLayered.call (RefUse.describe.call (.foreign forged)) =
      sampleLayered.call (RefUse.describe.call (.token (.code 30))) ∧
    (sampleLayered.call (RefUse.effective.call (.foreign { forged with code := 99 }))).Agrees
      (sampleLayered.call (RefUse.effective.call (.member { own with code := 99 }))) ∧
    List.Forall₂ Reply.Agrees
      (sampleLayered.session [(RefUse.set "draft" (.text "Warn")).call (.foreign forged),
        (RefUse.severityOf "draft").call (.member own)])
      (sampleLayered.session [(RefUse.set "draft" (.text "Warn")).call (.token (.code 30)),
        (RefUse.severityOf "draft").call (.foreign forged)]) := by
  obtain ⟨hdefinitions, hcode, hsession⟩ := definition_counts_by_code sampleLayered
  have hforged : forged.code = 30 := by decide +kernel
  have hown : (Registry.sampleEntry 30).issue.code = 30 := by decide +kernel
  have hknown : (sampleLayered.registry.byCode? 30).isSome = true := by decide +kernel
  refine ⟨by decide +kernel, ?_, hdefinitions _ _ { forged with code := 99 }
    { (Registry.sampleEntry 30).issue with code := 99 } rfl rfl rfl .effective, hsession _ _ ?_⟩
  · have hreply := hcode (.foreign forged) forged rfl (by rw [hforged]; exact hknown) .describe
    rwa [hforged] at hreply
  · have hset : sampleLayered.registry.SameCode (.foreign forged) (.token (.code 30)) :=
      .known (congrArg some hforged) rfl hknown
    have hread : sampleLayered.registry.SameCode (.member (Registry.sampleEntry 30).issue)
        (.foreign forged) := .definitions rfl rfl (hown.trans hforged.symm)
    exact .cons (.ref _ hset) (.cons (.ref _ hread) .nil)

end Layered

end DiagnosticCatalog
