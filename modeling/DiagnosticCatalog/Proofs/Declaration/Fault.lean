import DiagnosticCatalog.Proofs.Declaration
import Mathlib.Data.List.Chain
/-!
Which fault the check of declarations tells. It is that of the first declaration that is not new
beside those in front of it; where all are new, that of the first declaration which has both a level
and a parent, or from which the parents lead to no level. What is told of such parents is so: the
one that is named lies on the way, and a cycle is a way that comes back to where it has been. So the
check accepts the acceptable declarations and tells the others a fault, but for a repeated code with
too many digits.
-/

namespace DiagnosticCatalog.Declaration

open Descent Relation

/-! ## Declarations that are not new -/

/-- What must be its own was there in no earlier declaration, and the code is in use. -/
structure IsNew (earlier : List Declaration) (d : Declaration) : Prop where
  code : ∀ x ∈ earlier, x.code ≠ d.code
  current : d.code ∉ retiredCodes.map (·.1)
  identifier : ∀ x ∈ earlier, x.identifier ≠ d.identifier
  name : ∀ x ∈ earlier, x.foldedName ≠ d.foldedName

/-- What becomes of a declaration that is not new: of several reasons the first in this order. The
code of an earlier one is told if it can be written. -/
inductive Clash (earlier : List Declaration) (d : Declaration) : CatalogFailure → Prop
  | code {x : Declaration} : x ∈ earlier → x.code = d.code →
      Clash earlier d (.telling d.code (.duplicateCode d.code d.identifier))
  | retired {former : String} : (∀ x ∈ earlier, x.code ≠ d.code) → (d.code, former) ∈ retiredCodes →
      Clash earlier d (.fault (.retiredCode d.code former))
  | identifier {x : Declaration} : (∀ x ∈ earlier, x.code ≠ d.code) →
      d.code ∉ retiredCodes.map (·.1) → x ∈ earlier → x.identifier = d.identifier →
      Clash earlier d (.fault (.duplicateIdentifier d.identifier))
  | name {x : Declaration} : (∀ x ∈ earlier, x.code ≠ d.code) → d.code ∉ retiredCodes.map (·.1) →
      (∀ x ∈ earlier, x.identifier ≠ d.identifier) → x ∈ earlier →
      x.foldedName = d.foldedName →
      Clash earlier d (.fault (.nameCollision d.identifier x.identifier))

/-- Each declaration is new beside those in front of it and beside others before them all. -/
def AllNew (earlier ds : List Declaration) : Prop :=
  ∀ before d after, ds = before ++ d :: after → IsNew (earlier ++ before) d

/-- A declaration with its folded name. -/
def named (d : Declaration) : Declaration × String := (d, d.foldedName)

theorem Clash.not_isNew {earlier : List Declaration} {d : Declaration} {e : CatalogFailure}
    (h : Clash earlier d e) : ¬IsNew earlier d := by
  intro hnew
  cases h with
  | code hx hcode => exact hnew.code _ hx hcode
  | retired _ hrow => exact hnew.current (List.mem_map_of_mem hrow)
  | identifier _ _ hx hid => exact hnew.identifier _ hx hid
  | name _ _ _ hx hname => exact hnew.name _ hx hname

theorem allNew_nil (earlier : List Declaration) : AllNew earlier [] := by
  intro before d after h
  cases List.append_eq_nil_iff.1 h.symm |>.2

theorem allNew_cons {earlier ds : List Declaration} {d : Declaration} :
    AllNew earlier (d :: ds) ↔ IsNew earlier d ∧ AllNew (earlier ++ [d]) ds := by
  constructor
  · intro h
    refine ⟨?_, fun before x after hds => ?_⟩
    · simpa using h [] d ds rfl
    · simpa using h (d :: before) x after (by rw [hds, List.cons_append])
  · rintro ⟨hd, hds⟩ before x after h
    cases before with
    | nil =>
        obtain ⟨rfl, rfl⟩ := List.cons.inj h
        simpa using hd
    | cons y before =>
        obtain ⟨rfl, rfl⟩ := List.cons.inj h
        simpa using hds before x after rfl

theorem checkNew_named_eq_ok_iff {earlier : List Declaration} {d : Declaration} :
    checkNew (earlier.map named) d d.foldedName = .ok () ↔ IsNew earlier d := by
  rw [checkNew_eq_ok_iff, List.forall_mem_map, lookup_retiredCodes_eq_none]
  constructor
  · rintro ⟨hapart, hcurrent⟩
    exact ⟨fun x hx => (hapart x hx).1, hcurrent, fun x hx => (hapart x hx).2.1,
      fun x hx => (hapart x hx).2.2⟩
  · rintro ⟨hcode, hcurrent, hid, hname⟩
    exact ⟨fun x hx => ⟨hcode x hx, hid x hx, hname x hx⟩, hcurrent⟩

theorem any_named {earlier : List Declaration} {p : Declaration × String → Prop} [DecidablePred p] :
    (earlier.map named).any (fun x => p x) = true ↔ ∃ x ∈ earlier, p (named x) := by
  simp only [List.any_map, List.any_eq_true, Function.comp_apply, decide_eq_true_eq]

theorem isWritable_retired : ∀ row ∈ retiredCodes, Decimal.isWritable row.1 = true := by
  decide +kernel

theorem clash_of_checkNew {earlier : List Declaration} {d : Declaration} {e : CatalogFailure}
    (h : checkNew (earlier.map named) d d.foldedName = .error e) : Clash earlier d e := by
  simp only [checkNew, any_named, List.find?_map] at h
  split at h
  · rename_i hcode
    obtain rfl := Except.error.inj h
    obtain ⟨x, hx, hcode⟩ := hcode
    exact .code hx hcode
  · rename_i hcode
    have hcode : ∀ x ∈ earlier, x.code ≠ d.code := fun x hx hc => hcode ⟨x, hx, hc⟩
    split at h
    · rename_i former hformer
      have hrow := mem_of_lookup hformer
      rw [CatalogFailure.telling, if_pos (isWritable_retired _ hrow)] at h
      obtain rfl := Except.error.inj h
      exact .retired hcode hrow
    · rename_i hcurrent
      have hcurrent := lookup_retiredCodes_eq_none.1 hcurrent
      split at h
      · rename_i hid
        obtain rfl := Except.error.inj h
        obtain ⟨x, hx, hid⟩ := hid
        exact .identifier hcode hcurrent hx hid
      · rename_i hid
        have hid : ∀ x ∈ earlier, x.identifier ≠ d.identifier := fun x hx hc => hid ⟨x, hx, hc⟩
        split at h
        · rename_i found hfound
          obtain rfl := Except.error.inj h
          obtain ⟨x, hx, rfl⟩ := Option.map_eq_some_iff.1 hfound
          have hname := List.find?_some hx
          rw [Function.comp_apply, decide_eq_true_eq] at hname
          exact .name hcode hcurrent hid (List.mem_of_find?_eq_some hx) hname
        · cases h

/-- The run over all declarations stops at the first that is not new. -/
theorem checkDistinct_cases (earlier ds : List Declaration) :
    (checkDistinct (earlier.map named) (ds.map named) = .ok () ∧ AllNew earlier ds) ∨
      ∃ before d after e, checkDistinct (earlier.map named) (ds.map named) = .error e ∧
        ds = before ++ d :: after ∧ AllNew earlier before ∧ Clash (earlier ++ before) d e := by
  induction ds generalizing earlier with
  | nil => exact .inl ⟨rfl, allNew_nil earlier⟩
  | cons d ds ih =>
      have hrest := ih (earlier ++ [d])
      rw [List.map_append] at hrest
      rw [List.map_cons, named, checkDistinct]
      cases hnew : checkNew (earlier.map named) d d.foldedName with
      | error e =>
          exact .inr ⟨[], d, ds, e, rfl, rfl, allNew_nil earlier, by
            simpa using clash_of_checkNew hnew⟩
      | ok _ =>
          have hd := checkNew_named_eq_ok_iff.1 hnew
          rcases hrest with ⟨hok, hds⟩ | ⟨before, x, after, e, he, rfl, hb, hx⟩
          · exact .inl ⟨hok, allNew_cons.2 ⟨hd, hds⟩⟩
          · exact .inr ⟨d :: before, x, after, e, he, rfl, allNew_cons.2 ⟨hd, hb⟩, by
              simpa using hx⟩

/-! ## Parents that lead to no level -/

/-- The second declaration is the declared parent that decides for the first. -/
def Parent (ds : List Declaration) (x y : Declaration) : Prop :=
  x.level = .inherit ∧ x.parent? = some y.identifier ∧ y ∈ ds

/-- What is told of a declaration with both a level and a parent, or whose parents lead to no level:
a declaration on the way has no parent, or one that is not declared, or the way comes back to an
identifier on it and to none before. -/
inductive Strays (ds : List Declaration) (d : Declaration) : CatalogFailure → Prop
  | levelAndParent {s : Severity} {p : String} : d.level = .explicit s → d.parent? = some p →
      Strays ds d (.fault (.levelAndParent d.identifier))
  | noParent {x : Declaration} : ReflTransGen (Parent ds) d x → x.level = .inherit →
      x.parent? = none → Strays ds d (.fault (.noParent x.identifier))
  | undeclared {x : Declaration} {p : String} : ReflTransGen (Parent ds) d x →
      x.level = .inherit → x.parent? = some p → (∀ y ∈ ds, y.identifier ≠ p) →
      Strays ds d (.fault (.undeclaredParent x.identifier p))
  | cycle {way : List Declaration} {y : Declaration} : (d :: way ++ [y]).IsChain (Parent ds) →
      ((d :: way).map (·.identifier)).Nodup → y.identifier ∈ (d :: way).map (·.identifier) →
      Strays ds d (.fault (.cycle ((d :: way ++ [y]).map (·.identifier))))

/-- What the check of parents asks of one declaration. -/
structure Settled (ds : List Declaration) (d : Declaration) : Prop where
  parentless : d.level ≠ .inherit → d.parent? = none
  rooted : d.level = .inherit → Rooted ds d

/-- The way so far, from the first declaration to the present one. -/
structure Way (ds : List Declaration) (d : Declaration) (way : List Declaration)
    (x : Declaration) : Prop where
  chain : (d :: way).IsChain (Parent ds)
  last : (d :: way).getLast? = some x
  distinct : ((d :: way).map (·.identifier)).Nodup
  reaches : ReflTransGen (Parent ds) d x

theorem Way.start (ds : List Declaration) (d : Declaration) : Way ds d [] d :=
  ⟨.singleton d, rfl, by simp, .refl⟩

section

variable {ds way : List Declaration} {d x y : Declaration}

theorem Way.chain_concat (h : Way ds d way x) (hy : Parent ds x y) :
    (d :: way ++ [y]).IsChain (Parent ds) := by
  refine h.chain.append (.singleton y) fun a ha b hb => ?_
  obtain rfl := Option.some.inj (h.last.symm.trans ha)
  obtain rfl := Option.some.inj hb
  exact hy

theorem Way.step (h : Way ds d way x) (hy : Parent ds x y)
    (hnew : y.identifier ∉ (d :: way).map (·.identifier)) : Way ds d (way ++ [y]) y where
  chain := h.chain_concat hy
  last := by rw [← List.cons_append, List.getLast?_concat]
  distinct := by
    rw [← List.cons_append, List.map_append, List.nodup_append]
    refine ⟨h.distinct, by simp, fun a ha b hb hab => hnew ?_⟩
    have hb : b = y.identifier := List.mem_singleton.1 hb
    rw [← hb, ← hab]
    exact ha
  reaches := h.reaches.tail hy

end

theorem find?_eq_none_iff {ds : List Declaration} {p : String} :
    find? ds p = none ↔ ∀ y ∈ ds, y.identifier ≠ p := by
  simp [find?]

/-- The climb remembers the way, the present declaration first. -/
theorem strays_of_climb {ds : List Declaration} {path : List String} {child : String}
    {parent? : Option String} {e : CatalogFailure} (h : climb ds path child parent? = .error e)
    {d x : Declaration} {way : List Declaration} (hway : Way ds d way x) (hx : x.level = .inherit)
    (hpath : path = ((d :: way).map (·.identifier)).reverse) (hchild : child = x.identifier)
    (hparent : parent? = x.parent?) : Strays ds d e := by
  induction path, child, parent? using climb.induct ds generalizing x way with
  | case1 path child =>
      rw [climb_none] at h
      obtain rfl := Except.error.inj h
      exact hchild ▸ .noParent hway.reaches hx hparent.symm
  | case2 path child p hf =>
      rw [climb_undeclared hf] at h
      obtain rfl := Except.error.inj h
      exact hchild ▸ .undeclared hway.reaches hx hparent.symm (find?_eq_none_iff.1 hf)
  | case3 path child p y hf hp =>
      rw [climb_declared hf, if_pos hp] at h
      obtain rfl := Except.error.inj h
      have hid : y.identifier = p := by simpa using List.find?_some hf
      have hy : Parent ds x y := ⟨hx, hid ▸ hparent.symm, List.mem_of_find?_eq_some hf⟩
      have hback : y.identifier ∈ (d :: way).map (·.identifier) := by
        rw [hid, ← List.mem_reverse, ← hpath]
        exact hp
      have hprinted : path.reverse ++ [p] = (d :: way ++ [y]).map (·.identifier) := by
        rw [hpath, List.reverse_reverse, List.map_append, List.map_singleton, hid]
      exact hprinted ▸ .cycle (hway.chain_concat hy) hway.distinct hback
  | case4 path child p y hf hp s hs =>
      rw [climb_declared hf, if_neg hp, hs] at h
      cases h
  | case5 path child p y hf hp hi ih =>
      rw [climb_declared hf, if_neg hp, hi] at h
      have hid : y.identifier = p := by simpa using List.find?_some hf
      have hy : Parent ds x y := ⟨hx, hid ▸ hparent.symm, List.mem_of_find?_eq_some hf⟩
      have hnew : y.identifier ∉ (d :: way).map (·.identifier) := by
        rw [hid, ← List.mem_reverse, ← hpath]
        exact hp
      refine ih h (hway.step hy hnew) hi ?_ hid.symm rfl
      rw [hpath, ← List.cons_append, List.map_append, List.reverse_append, List.map_singleton, hid]
      rfl

theorem strays_of_checkParent {ds : List Declaration} {d : Declaration} {e : CatalogFailure}
    (h : checkParent ds d = .error e) : Strays ds d e := by
  rw [checkParent] at h
  split at h
  · rename_i hlevel
    exact strays_of_climb h (.start ds d) hlevel rfl rfl rfl
  · rename_i s hlevel
    split at h
    · rename_i hparent
      obtain ⟨p, hp⟩ := Option.isSome_iff_exists.1 hparent
      obtain rfl := Except.error.inj h
      exact .levelAndParent hlevel hp
    · cases h

theorem settled_iff_checkParent {ds : List Declaration} (hi : (ds.map (·.identifier)).Nodup)
    {d : Declaration} (hd : d ∈ ds) : checkParent ds d = .ok () ↔ Settled ds d := by
  rw [checkParent_eq_ok_iff (find?_identifier hi hd)]
  constructor
  · rintro ⟨hparent, hgrounded⟩
    exact ⟨hparent, fun _ => hgrounded.rooted⟩
  · rintro ⟨hparent, hrooted⟩
    refine ⟨hparent, ?_⟩
    cases hlevel : d.level with
    | explicit s => exact .of_explicit hlevel
    | inherit => exact (hrooted hlevel).grounded hi

theorem checkParents_eq_error {ds rest : List Declaration} {e : CatalogFailure}
    (h : checkParents ds rest = .error e) : ∃ before d after, rest = before ++ d :: after ∧
      (∀ x ∈ before, checkParent ds x = .ok ()) ∧ checkParent ds d = .error e := by
  induction rest with
  | nil => cases h
  | cons d rest ih =>
      rw [checkParents] at h
      cases hd : checkParent ds d with
      | error f =>
          rw [hd] at h
          obtain rfl := Except.error.inj h
          exact ⟨[], d, rest, rfl, by simp, hd⟩
      | ok _ =>
          rw [hd] at h
          obtain ⟨before, x, after, rfl, hbefore, hx⟩ := ih h
          exact ⟨d :: before, x, after, rfl, List.forall_mem_cons.2 ⟨hd, hbefore⟩, hx⟩

/-! ## What is told -/

/-- What is told of declarations with faults, and of which of them. -/
inductive FirstFault (ds : List Declaration) (e : CatalogFailure) : Prop
  | clash {before after : List Declaration} {d : Declaration} : ds = before ++ d :: after →
      AllNew [] before → ¬IsNew before d → Clash before d e → FirstFault ds e
  | strays {before after : List Declaration} {d : Declaration} : AllNew [] ds →
      ds = before ++ d :: after → (∀ x ∈ before, Settled ds x) → ¬Settled ds d →
      Strays ds d e → FirstFault ds e

theorem check_of_distinct {ds : List Declaration} (h : checkDistinct [] (ds.map named) = .ok ()) :
    check ds = checkParents ds ds := by
  have hnamed : (ds.map fun d => (d, d.foldedName)) = ds.map named := rfl
  rw [check, hnamed, h]

theorem check_of_not_distinct {ds : List Declaration} {e : CatalogFailure}
    (h : checkDistinct [] (ds.map named) = .error e) : check ds = .error e := by
  have hnamed : (ds.map fun d => (d, d.foldedName)) = ds.map named := rfl
  rw [check, hnamed, h]

theorem FirstFault.of_check {ds : List Declaration} {e : CatalogFailure}
    (h : check ds = .error e) : FirstFault ds e := by
  rcases checkDistinct_cases [] ds with ⟨hok, hnew⟩ | ⟨before, d, after, f, hf, hds, hbefore, hd⟩
  · have hi := (checkDistinct_map_eq_ok_iff.1 hok).2.1
    rw [check_of_distinct hok] at h
    obtain ⟨before, d, after, hds, hbefore, hd⟩ := checkParents_eq_error h
    have hmem : ∀ x ∈ before, x ∈ ds := fun x hx => hds ▸ List.mem_append_left _ hx
    have hdmem : d ∈ ds := hds ▸ List.mem_append_right _ List.mem_cons_self
    refine .strays hnew hds (fun x hx => ?_) (fun hsettled => ?_) (strays_of_checkParent hd)
    · exact (settled_iff_checkParent hi (hmem x hx)).1 (hbefore x hx)
    · cases hd.symm.trans ((settled_iff_checkParent hi hdmem).2 hsettled)
  · obtain rfl := Except.error.inj ((check_of_not_distinct hf).symm.trans h)
    exact .clash hds hbefore hd.not_isNew hd

/-- Of the declarations that are not new the first repeats a code with too many digits to be told. -/
def RepeatsUntold (ds : List Declaration) : Prop :=
  ∃ before d after, ds = before ++ d :: after ∧ AllNew [] before ∧
    (∃ x ∈ before, x.code = d.code) ∧ Decimal.isWritable d.code = false

/-- The run over all declarations gets as far as they are new. -/
theorem checkDistinct_append {earlier before : List Declaration} (h : AllNew earlier before)
    (rest : List Declaration) :
    checkDistinct (earlier.map named) ((before ++ rest).map named) =
      checkDistinct ((earlier ++ before).map named) (rest.map named) := by
  induction before generalizing earlier with
  | nil => rw [List.nil_append, List.append_nil]
  | cons d before ih =>
      obtain ⟨hd, hbefore⟩ := allNew_cons.1 h
      have hrest := ih hbefore
      rw [List.map_append, List.append_assoc] at hrest
      rw [List.cons_append, List.map_cons, named, checkDistinct, checkNew_named_eq_ok_iff.2 hd]
      exact hrest

theorem check_of_repeatsUntold {ds : List Declaration} (h : RepeatsUntold ds) :
    check ds = .error (.overlong .writing) := by
  obtain ⟨before, d, after, rfl, hbefore, hrepeated, hcode⟩ := h
  have hnew : checkNew (before.map named) d d.foldedName = .error (.overlong .writing) := by
    rw [checkNew, if_pos (any_named.2 hrepeated), CatalogFailure.telling, hcode]
    rfl
  have hrun := checkDistinct_append hbefore (d :: after)
  rw [List.map_nil, List.nil_append, List.map_cons, named, checkDistinct, hnew] at hrun
  exact check_of_not_distinct hrun

/-- A fault is told of all that is wrong but a code that cannot be written. -/
theorem FirstFault.told {ds : List Declaration} {e : CatalogFailure} (h : FirstFault ds e) :
    (∃ f, e = .fault f) ∨ e = .overlong .writing ∧ RepeatsUntold ds := by
  cases h with
  | @clash before after d hds hbefore _ hclash =>
      cases hclash with
      | @code x hx hcode =>
          rw [CatalogFailure.telling]
          cases hw : Decimal.isWritable d.code with
          | true => exact .inl ⟨_, rfl⟩
          | false => exact .inr ⟨rfl, before, d, after, hds, hbefore, ⟨x, hx, hcode⟩, hw⟩
      | retired _ _ => exact .inl ⟨_, rfl⟩
      | identifier _ _ _ _ => exact .inl ⟨_, rfl⟩
      | name _ _ _ _ _ => exact .inl ⟨_, rfl⟩
  | strays _ _ _ _ hstrays => cases hstrays <;> exact .inl ⟨_, rfl⟩

/-- The check comes to an end on every list and passes the acceptable ones alone. To the others it
tells a fault, unless a code that has too many digits to be told is what they repeat first. -/
theorem check_decides (ds : List Declaration) :
    (check ds = .ok () ↔ Acceptable ds) ∧
    ((∃ e, check ds = .error (.fault e)) ↔ ¬Acceptable ds ∧ ¬RepeatsUntold ds) ∧
    (check ds = .error (.overlong .writing) ↔ RepeatsUntold ds) := by
  have hoverlong : check ds = .error (.overlong .writing) ↔ RepeatsUntold ds := by
    refine ⟨fun h => ?_, check_of_repeatsUntold⟩
    obtain ⟨_, hfault⟩ | ⟨_, hrepeats⟩ := (FirstFault.of_check h).told
    · cases hfault
    · exact hrepeats
  refine ⟨check_eq_ok_iff_acceptable, ?_, hoverlong⟩
  rw [← check_eq_ok_iff_acceptable, ← hoverlong]
  cases hcheck : check ds with
  | ok _ => simp
  | error e =>
      obtain ⟨f, rfl⟩ | ⟨rfl, _⟩ := (FirstFault.of_check hcheck).told
      · simp
      · simp

/-- Two declarations of one code that have nothing else in common. -/
def twins (code : Int) : List Declaration := [
  ⟨code, "A", .explicit .error, .unknown, none, none, none⟩,
  ⟨code, "B", .explicit .error, .unknown, none, none, none⟩]

/-- The least code that cannot be written. -/
theorem check_twins : ¬Acceptable (twins (Nat.pow 10 Decimal.digitLimit)) ∧
    ∀ e, check (twins (Nat.pow 10 Decimal.digitLimit)) ≠ .error (.fault e) := by
  have hcheck : check (twins (Nat.pow 10 Decimal.digitLimit)) = .error (.overlong .writing) := by
    decide +kernel
  refine ⟨fun h => ?_, fun e h => ?_⟩
  · cases hcheck.symm.trans (check_eq_ok_iff_acceptable.2 h)
  · cases hcheck.symm.trans h

end DiagnosticCatalog.Declaration
