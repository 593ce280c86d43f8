import DiagnosticCatalog.Proofs.Registry.Lookup
import DiagnosticCatalog.Registry.Operation
/-!
Writes, and the states that they lead to. Writes update entries in place, and for each issue the last
one decides.
-/

namespace DiagnosticCatalog

/-! ## The last member of a class -/

theorem findRev?_cons {α : Type} (p : α → Bool) (a : α) (l : List α) :
    (a :: l).findRev? p = (l.findRev? p).or (if p a then some a else none) := by
  rw [List.findRev?]
  cases l.findRev? p <;> rfl

theorem findRev?_append {α : Type} (p : α → Bool) (l m : List α) :
    (l ++ m).findRev? p = (m.findRev? p).or (l.findRev? p) := by
  induction l with
  | nil => rw [List.nil_append, List.findRev?, Option.or_none]
  | cons a l ih => rw [List.cons_append, findRev?_cons, findRev?_cons, ih, Option.or_assoc]

theorem findRev?_eq_none {α : Type} {p : α → Bool} {l : List α} :
    l.findRev? p = none ↔ ∀ a ∈ l, ¬p a = true := by
  rw [List.findRev?_eq_find?_reverse, List.find?_eq_none]
  simp only [List.mem_reverse]

theorem findRev?_some {α : Type} {p : α → Bool} {l : List α} {a : α} (h : l.findRev? p = some a) :
    a ∈ l ∧ p a = true := by
  rw [List.findRev?_eq_find?_reverse] at h
  exact ⟨List.mem_reverse.1 (List.mem_of_find?_eq_some h), List.find?_some h⟩

/-- In an ascending list the last member of a class is above all its members. -/
theorem le_findRev? {α : Type} {le : α → α → Prop} (hrefl : ∀ a, le a a) {l : List α}
    (hl : l.Pairwise le) {p : α → Bool} {a : α} (h : l.findRev? p = some a) :
    ∀ b ∈ l, p b = true → le b a := by
  induction hl with
  | nil => cases h
  | @cons c l hc hl ih =>
      rw [findRev?_cons] at h
      cases hf : l.findRev? p with
      | some d =>
          rw [hf, Option.some_or] at h
          obtain rfl := Option.some.inj h
          intro b hb hp
          rcases List.mem_cons.1 hb with rfl | hb
          · exact hc d (findRev?_some hf).1
          · exact ih hf b hb hp
      | none =>
          rw [hf, Option.none_or] at h
          have hca : c = a := by
            split at h
            · exact Option.some.inj h
            · cases h
          intro b hb hp
          rcases List.mem_cons.1 hb with rfl | hb
          · exact hca ▸ hrefl b
          · exact absurd hp (findRev?_eq_none.1 hf b hb)

/-! ## Writes -/

/-- The storing of a severity and a mark for the issue with a code. -/
structure Write where
  code : Int
  severity : Severity
  userSet : Bool
  deriving DecidableEq, Repr

namespace Write

/-- The latest of the writes to the issue with the code. -/
def latest? (code : Int) (ws : List Write) : Option Write := ws.findRev? fun w => w.code = code

@[simp] theorem latest?_nil (code : Int) : latest? code [] = none := rfl

theorem latest?_cons (code : Int) (w : Write) (ws : List Write) :
    latest? code (w :: ws) = (latest? code ws).or (if w.code = code then some w else none) := by
  simp only [latest?, findRev?_cons, decide_eq_true_eq]

theorem latest?_append (code : Int) (ws vs : List Write) :
    latest? code (ws ++ vs) = (latest? code vs).or (latest? code ws) := findRev?_append _ ws vs

end Write

/-- The entry once the writes are done. -/
def Entry.after (ws : List Write) (e : Entry) : Entry :=
  match Write.latest? e.issue.code ws with
  | some w => ⟨e.issue, .explicit w.severity, w.userSet⟩
  | none => e

@[simp] theorem Entry.after_issue (ws : List Write) (e : Entry) : (e.after ws).issue = e.issue := by
  unfold after
  split <;> rfl

theorem Entry.after_nil : Entry.after [] = id := rfl

theorem Entry.after_append (ws vs : List Write) (e : Entry) :
    e.after (ws ++ vs) = (e.after ws).after vs := by
  simp only [after.eq_1 vs, Entry.after_issue]
  simp only [after, Write.latest?_append]
  cases Write.latest? e.issue.code vs <;> rfl

theorem Entry.after_singleton_of_ne {e : Entry} {w : Write} (h : e.issue.code ≠ w.code) :
    e.after [w] = e := by
  simp [after, Write.latest?_cons, Ne.symm h]

theorem Entry.after_singleton_of_eq {e : Entry} {w : Write} (h : e.issue.code = w.code) :
    e.after [w] = ⟨e.issue, .explicit w.severity, w.userSet⟩ := by
  simp [after, Write.latest?_cons, h]

theorem Entry.level_after_singleton {e : Entry} {w : Write} (h : e.issue.code = w.code) :
    (e.after [w]).level = .explicit w.severity := by
  rw [after_singleton_of_eq h]

namespace Registry

def put (r : Registry) (w : Write) : Registry := r.store w.code w.severity w.userSet

def commit (r : Registry) (ws : List Write) : Registry := ws.foldl put r

@[simp] theorem commit_nil (r : Registry) : r.commit [] = r := rfl

theorem commit_append (r : Registry) (ws vs : List Write) :
    r.commit (ws ++ vs) = (r.commit ws).commit vs := List.foldl_append

theorem put_eq_update (r : Registry) (w : Write) : r.put w = r.update (Entry.after [w]) := by
  simp only [put, store, modify, update, Registry.mk.injEq]
  refine List.map_congr_left fun e _ => ?_
  by_cases h : e.issue.code = w.code
  · rw [if_pos h, Entry.after_singleton_of_eq h]
  · rw [if_neg h, Entry.after_singleton_of_ne h]

theorem codes_put (r : Registry) (w : Write) :
    (r.put w).entries.map (·.issue.code) = r.entries.map (·.issue.code) := by
  rw [put_eq_update, codes_update (Entry.after_issue [w])]

/-- The last write to an issue decides what is stored for it. -/
theorem commit_eq_update (r : Registry) (ws : List Write) :
    r.commit ws = r.update (Entry.after ws) := by
  induction ws generalizing r with
  | nil => simp only [commit_nil, update, Entry.after_nil, List.map_id]
  | cons w ws ih =>
      change (r.put w).commit ws = _
      rw [ih, put_eq_update, update_update]
      congr 1
      funext e
      exact (e.after_append [w] ws).symm

end Registry

end DiagnosticCatalog
