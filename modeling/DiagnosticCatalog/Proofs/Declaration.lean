import DiagnosticCatalog.Declaration
import DiagnosticCatalog.Proofs.Descent
/-!
What the check of declarations accepts: distinct codes, none of them retired, distinct identifiers,
distinct folded names, no parent beside a level, and parents that lead to a level.
-/

namespace DiagnosticCatalog.Declaration

open Descent

/-- The declaration that decides instead: the declared parent, where there is no level. -/
def heir? (ds : List Declaration) (d : Declaration) : Option Declaration :=
  match d.level with
  | .explicit _ => none
  | .inherit => d.parent?.bind (find? ds)

/-- Following parents ends at a declaration with a level. -/
def Grounded (ds : List Declaration) (d : Declaration) : Prop :=
  ∃ n e s, Leads (heir? ds) n d e ∧ e.level = .explicit s

structure Sound (ds : List Declaration) : Prop where
  codes : (ds.map (·.code)).Nodup
  current : ∀ d ∈ ds, retiredCodes.lookup d.code = none
  identifiers : (ds.map (·.identifier)).Nodup
  names : (ds.map foldedName).Nodup
  parentless : ∀ d ∈ ds, d.level ≠ .inherit → d.parent? = none
  grounded : ∀ d ∈ ds, Grounded ds d

/-! ## Distinctness -/

/-- Two declarations with their folded names have nothing in common that must be their own. -/
def Apart (x y : Declaration × String) : Prop :=
  x.1.code ≠ y.1.code ∧ x.1.identifier ≠ y.1.identifier ∧ x.2 ≠ y.2

theorem checkNew_eq_ok_iff {earlier : List (Declaration × String)} {d : Declaration}
    {folded : String} : checkNew earlier d folded = .ok () ↔
      (∀ x ∈ earlier, Apart x (d, folded)) ∧ retiredCodes.lookup d.code = none := by
  unfold checkNew Apart
  by_cases hc : earlier.any (·.1.code = d.code) = true
  · simp only [hc, if_true, reduceCtorEq, false_iff, not_and]
    intro h
    obtain ⟨x, hx, he⟩ := List.any_eq_true.1 hc
    exact absurd (of_decide_eq_true he) (h x hx).1
  · rw [if_neg hc]
    cases retiredCodes.lookup d.code with
    | some former => simp
    | none =>
        by_cases hi : earlier.any (·.1.identifier = d.identifier) = true
        · simp only [hi, if_true, reduceCtorEq, false_iff, and_true]
          intro h
          obtain ⟨x, hx, he⟩ := List.any_eq_true.1 hi
          exact absurd (of_decide_eq_true he) (h x hx).2.1
        · simp only [hi]
          simp only [List.any_eq_true, decide_eq_true_eq, not_exists, not_and] at hc hi
          cases hf : earlier.find? (·.2 = folded) with
          | some x =>
              simp only [Bool.false_eq_true, if_false, reduceCtorEq, false_iff, and_true]
              intro h
              have hx : x.2 = folded := by simpa using List.find?_some hf
              exact (h x (List.mem_of_find?_eq_some hf)).2.2 hx
          | none =>
              simp only [List.find?_eq_none, decide_eq_true_eq] at hf
              simp only [Bool.false_eq_true, if_false, and_true, true_iff]
              exact fun x hx => ⟨hc x hx, hi x hx, hf x hx⟩

theorem checkDistinct_eq_ok_iff {earlier rest : List (Declaration × String)} :
    checkDistinct earlier rest = .ok () ↔
      (∀ x ∈ earlier, ∀ y ∈ rest, Apart x y) ∧ rest.Pairwise Apart ∧
        ∀ y ∈ rest, retiredCodes.lookup y.1.code = none := by
  induction rest generalizing earlier with
  | nil => simp [checkDistinct]
  | cons y rest ih =>
      obtain ⟨d, folded⟩ := y
      have hstep : checkDistinct earlier ((d, folded) :: rest) = .ok () ↔
          checkNew earlier d folded = .ok () ∧
            checkDistinct (earlier ++ [(d, folded)]) rest = .ok () := by
        rw [checkDistinct]
        cases checkNew earlier d folded <;> simp
      rw [hstep, checkNew_eq_ok_iff, ih]
      simp only [List.forall_mem_append, List.forall_mem_singleton, List.forall_mem_cons,
        List.pairwise_cons, imp_and, forall_and]
      constructor
      · rintro ⟨⟨hd, hr⟩, ⟨hs, hds⟩, hp, hrs⟩
        exact ⟨⟨hd, hs⟩, ⟨hds, hp⟩, hr, hrs⟩
      · rintro ⟨⟨hd, hs⟩, ⟨hds, hp⟩, hr, hrs⟩
        exact ⟨⟨hd, hr⟩, ⟨hs, hds⟩, hp, hrs⟩

theorem checkDistinct_map_eq_ok_iff {ds : List Declaration} :
    checkDistinct [] (ds.map fun d => (d, d.foldedName)) = .ok () ↔
      (ds.map (·.code)).Nodup ∧ (ds.map (·.identifier)).Nodup ∧ (ds.map foldedName).Nodup ∧
        ∀ d ∈ ds, retiredCodes.lookup d.code = none := by
  rw [checkDistinct_eq_ok_iff]
  simp only [List.Nodup, List.pairwise_map, Apart, List.pairwise_and_iff, List.mem_map,
    forall_exists_index, and_imp, forall_apply_eq_imp_iff₂, List.not_mem_nil, false_imp_iff,
    implies_true, true_and, and_assoc]

/-! ## Parents -/

theorem heir?_of_inherit {ds : List Declaration} {d : Declaration} (h : d.level = .inherit) :
    heir? ds d = d.parent?.bind (find? ds) := by
  rw [heir?, h]

theorem heir?_of_explicit {ds : List Declaration} {d : Declaration} {s : Severity}
    (h : d.level = .explicit s) : heir? ds d = none := by
  rw [heir?, h]

theorem Grounded.of_explicit {ds : List Declaration} {d : Declaration} {s : Severity}
    (h : d.level = .explicit s) : Grounded ds d :=
  ⟨0, d, s, .stop (heir?_of_explicit h), h⟩

theorem grounded_iff_heir {ds : List Declaration} {d : Declaration} (h : d.level = .inherit) :
    Grounded ds d ↔ ∃ e, heir? ds d = some e ∧ Grounded ds e := by
  constructor
  · rintro ⟨n, e, s, hl, he⟩
    cases hl with
    | stop _ => exact absurd (h.symm.trans he) (by simp)
    | step hs hl => exact ⟨_, hs, _, e, s, hl, he⟩
  · rintro ⟨e, hs, n, f, s, hl, hf⟩
    exact ⟨n + 1, f, s, .step hs hl, hf⟩

theorem climb_none (ds : List Declaration) (path : List String) (child : String) :
    climb ds path child none = .error (.fault (.noParent child)) := by
  rw [climb]

theorem climb_undeclared {ds : List Declaration} {p : String} (h : find? ds p = none)
    (path : List String) (child : String) :
    climb ds path child (some p) = .error (.fault (.undeclaredParent child p)) := by
  rw [climb]
  split
  · rfl
  · rename_i hf
    cases h.symm.trans hf

theorem climb_declared {ds : List Declaration} {p : String} {d : Declaration}
    (h : find? ds p = some d) (path : List String) (child : String) :
    climb ds path child (some p) =
      if p ∈ path then .error (.fault (.cycle (path.reverse ++ [p]))) else match d.level with
      | .explicit _ => .ok ()
      | .inherit => climb ds (p :: path) p d.parent? := by
  rw [climb]
  split
  · rename_i hf
    cases h.symm.trans hf
  · rename_i hf
    obtain rfl := Option.some.inj (h.symm.trans hf)
    rfl

theorem grounded_of_climb {ds : List Declaration} {path : List String} {child : String}
    {parent? : Option String} (h : climb ds path child parent? = .ok ()) :
    ∃ e, parent?.bind (find? ds) = some e ∧ Grounded ds e := by
  induction path, child, parent? using climb.induct ds with
  | case1 path child => cases (climb_none ds path child).symm.trans h
  | case2 path child p hf => cases (climb_undeclared hf path child).symm.trans h
  | case3 path child p d hf hp =>
      rw [climb_declared hf, if_pos hp] at h
      cases h
  | case4 path child p d hf hp s hs => exact ⟨d, hf, .of_explicit hs⟩
  | case5 path child p d hf hp hi ih =>
      rw [climb_declared hf, if_neg hp, hi] at h
      exact ⟨d, hf, (grounded_iff_heir hi).2 (heir?_of_inherit hi ▸ ih h)⟩

/-- What the climb remembers lies behind it, so it meets nothing twice before it ends. -/
theorem climb_of_leads {ds : List Declaration} {n : Nat} {d e : Declaration} {s : Severity}
    (hl : Leads (heir? ds) n d e) (he : e.level = .explicit s) (hd : d.level = .inherit)
    {path : List String} (hp : Behind (heir? ds) (find? ds) n path) (child : String) :
    climb ds path child d.parent? = .ok () := by
  induction hl generalizing path child with
  | stop _ => exact absurd (hd.symm.trans he) (by simp)
  | @step d f e n hs hl ih =>
      rw [heir?_of_inherit hd] at hs
      obtain ⟨p, hdp, hf⟩ := Option.bind_eq_some_iff.1 hs
      rw [hdp, climb_declared hf, if_neg (hp.not_mem hf hl)]
      cases hlevel : f.level with
      | explicit s => rfl
      | inherit => exact ih he hlevel (hp.cons hf hl) p

theorem checkParent_eq_ok_iff {ds : List Declaration} {d : Declaration}
    (hd : find? ds d.identifier = some d) : checkParent ds d = .ok () ↔
      (d.level ≠ .inherit → d.parent? = none) ∧ Grounded ds d := by
  unfold checkParent
  cases hlevel : d.level with
  | explicit s => simp [Grounded.of_explicit hlevel]
  | inherit =>
      simp only [ne_eq, not_true_eq_false, false_imp_iff, true_and]
      constructor
      · intro h
        exact (grounded_iff_heir hlevel).2 (heir?_of_inherit hlevel ▸ grounded_of_climb h)
      · rintro ⟨n, e, s, hl, he⟩
        exact climb_of_leads hl he hlevel (.singleton hd hl) d.identifier

theorem checkParents_eq_ok_iff {ds rest : List Declaration} :
    checkParents ds rest = .ok () ↔ ∀ d ∈ rest, checkParent ds d = .ok () := by
  induction rest with
  | nil => simp [checkParents]
  | cons d rest ih =>
      rw [checkParents, List.forall_mem_cons, ← ih]
      cases checkParent ds d <;> simp

theorem find?_identifier {ds : List Declaration} (h : (ds.map (·.identifier)).Nodup)
    {d : Declaration} (hd : d ∈ ds) : find? ds d.identifier = some d :=
  find?_key h hd

/-- The check accepts the sound declarations and no others. -/
theorem check_eq_ok_iff {ds : List Declaration} : check ds = .ok () ↔ Sound ds := by
  have hstep : check ds = .ok () ↔ checkDistinct [] (ds.map fun d => (d, d.foldedName)) = .ok () ∧
      checkParents ds ds = .ok () := by
    rw [check]
    cases checkDistinct [] (ds.map fun d => (d, d.foldedName)) <;> simp
  rw [hstep, checkDistinct_map_eq_ok_iff, checkParents_eq_ok_iff]
  constructor
  · rintro ⟨⟨hc, hi, hn, hr⟩, hp⟩
    have hp := fun d hd => (checkParent_eq_ok_iff (find?_identifier hi hd)).1 (hp d hd)
    exact ⟨hc, hr, hi, hn, fun d hd => (hp d hd).1, fun d hd => (hp d hd).2⟩
  · rintro ⟨hc, hr, hi, hn, hp, hg⟩
    exact ⟨⟨hc, hi, hn, hr⟩, fun d hd =>
      (checkParent_eq_ok_iff (find?_identifier hi hd)).2 ⟨hp d hd, hg d hd⟩⟩

/-! ## What is accepted -/

/-- Following parents, each one declared, leads from the declaration to a level. -/
inductive Rooted (ds : List Declaration) : Declaration → Prop
  | level {d : Declaration} {s : Severity} : d.level = .explicit s → Rooted ds d
  | parent {d p : Declaration} : d.level = .inherit → d.parent? = some p.identifier → p ∈ ds →
      Rooted ds p → Rooted ds d

/-- What a list of declarations is held to, said of its members alone. A parent may be declared
after those that name it. -/
structure Acceptable (ds : List Declaration) : Prop where
  codes : (ds.map (·.code)).Nodup
  current : ∀ d ∈ ds, d.code ∉ retiredCodes.map (·.1)
  identifiers : (ds.map (·.identifier)).Nodup
  names : (ds.map fun d => IssueName.fold (IssueName.derive d.identifier)).Nodup
  parentless : ∀ d ∈ ds, d.level ≠ .inherit → d.parent? = none
  rooted : ∀ d ∈ ds, d.level = .inherit → Rooted ds d

theorem lookup_retiredCodes_eq_none {code : Int} :
    retiredCodes.lookup code = none ↔ code ∉ retiredCodes.map (·.1) := by
  rw [List.lookup_eq_none_iff, List.mem_map]
  constructor
  · rintro h ⟨row, hrow, rfl⟩
    simpa using h row hrow
  · intro h row hrow
    exact bne_iff_ne.2 fun hc => h ⟨row, hrow, hc.symm⟩

theorem Rooted.grounded {ds : List Declaration} (hi : (ds.map (·.identifier)).Nodup)
    {d : Declaration} (h : Rooted ds d) : Grounded ds d := by
  induction h with
  | level hs => exact .of_explicit hs
  | @parent d p hd hp hmem _ ih =>
      refine (grounded_iff_heir hd).2 ⟨p, ?_, ih⟩
      rw [heir?_of_inherit hd, hp]
      exact find?_identifier hi hmem

theorem Grounded.rooted {ds : List Declaration} {d : Declaration} (h : Grounded ds d) :
    Rooted ds d := by
  obtain ⟨n, e, s, hl, he⟩ := h
  induction hl with
  | stop _ => exact .level he
  | @step d p e n hs _ ih =>
      cases hd : d.level with
      | explicit t => exact .level hd
      | inherit =>
          rw [heir?_of_inherit hd] at hs
          obtain ⟨i, hi, hf⟩ := Option.bind_eq_some_iff.1 hs
          have hid : p.identifier = i := by simpa using List.find?_some hf
          exact .parent hd (hid ▸ hi) (List.mem_of_find?_eq_some hf) (ih he)

theorem sound_iff_acceptable {ds : List Declaration} : Sound ds ↔ Acceptable ds := by
  constructor
  · rintro ⟨hc, hr, hi, hn, hp, hg⟩
    exact ⟨hc, fun d hd => lookup_retiredCodes_eq_none.1 (hr d hd), hi, hn, hp,
      fun d hd _ => (hg d hd).rooted⟩
  · rintro ⟨hc, hr, hi, hn, hp, hg⟩
    refine ⟨hc, fun d hd => lookup_retiredCodes_eq_none.2 (hr d hd), hi, hn, hp, fun d hd => ?_⟩
    cases hlevel : d.level with
    | explicit s => exact .of_explicit hlevel
    | inherit => exact (hg d hd hlevel).grounded hi

theorem check_eq_ok_iff_acceptable {ds : List Declaration} : check ds = .ok () ↔ Acceptable ds :=
  check_eq_ok_iff.trans sound_iff_acceptable

/-- The path runs into a cycle that it does not start on. -/
example : check [
    ⟨1, "A", .inherit, .unknown, some "B", none, none⟩,
    ⟨2, "B", .inherit, .unknown, some "C", none, none⟩,
    ⟨3, "C", .inherit, .unknown, some "B", none, none⟩] =
    .error (.fault (.cycle ["A", "B", "C", "B"])) := by cbv

end DiagnosticCatalog.Declaration
