import DiagnosticCatalog.Layer
import DiagnosticCatalog.Proofs.Registry.Lookup
import DiagnosticCatalog.Proofs.Table
/-!
Layers. For an issue whose code was put in, a layer gives the severity put in last; for any other it
gives what is in effect in the registry under it.
-/

namespace DiagnosticCatalog.Layer

theorem insert_eq_bindRow (code : Int) (s : Severity) (levels : List (Int × Severity)) :
    insert code s levels = Table.bindRow code s levels := by
  induction levels with
  | nil => rfl
  | cons row levels ih => rw [insert, Table.bindRow, ih]

theorem lookup_insert (code c : Int) (s : Severity) (levels : List (Int × Severity)) :
    (insert code s levels).lookup c = if c = code then some s else levels.lookup c := by
  rw [insert_eq_bindRow]
  exact Table.lookup_bindRow code c s levels

def insertAll (rows levels : List (Int × Severity)) : List (Int × Severity) :=
  rows.foldl (fun levels row => insert row.1 row.2 levels) levels

/-- The severity that stands last for a code. -/
def latest? (code : Int) (rows : List (Int × Severity)) : Option Severity :=
  (rows.findRev? fun row => row.1 = code).map Prod.snd

theorem latest?_cons (c : Int) (row : Int × Severity) (rows : List (Int × Severity)) :
    latest? c (row :: rows) = (latest? c rows).or (if c = row.1 then some row.2 else none) := by
  rw [latest?, latest?, findRev?_cons]
  cases rows.findRev? _ with
  | some p => rfl
  | none =>
      by_cases h : c = row.1
      · simp [h]
      · simp [h, Ne.symm h]

/-- Where no code comes twice the last row of a code is its only one. -/
theorem latest?_eq_lookup {rows : List (Int × Severity)} (hrows : (rows.map Prod.fst).Nodup)
    (c : Int) : latest? c rows = rows.lookup c := by
  rw [latest?, findRev?_key hrows]
  exact Table.get?_eq_lookup ⟨rows⟩ c

theorem lookup_insertAll (rows levels : List (Int × Severity)) (c : Int) :
    (insertAll rows levels).lookup c = (latest? c rows).or (levels.lookup c) := by
  induction rows generalizing levels with
  | nil => rfl
  | cons row rows ih =>
      have hcons : insertAll (row :: rows) levels =
          insertAll rows (insert row.1 row.2 levels) := rfl
      rw [hcons, ih, lookup_insert, latest?_cons, Option.or_assoc]
      by_cases h : c = row.1
      · rw [if_pos h, if_pos h, Option.some_or]
      · rw [if_neg h, if_neg h, Option.none_or]

section

variable {r : Registry}

theorem set_code {code : Int} (h : (r.byCode? code).isSome = true) (l : Layer) (s : Severity) :
    l.set r (.token (.code code)) (.severity s) = .ok ⟨insert code s l.levels⟩ := by
  obtain ⟨e, he⟩ := Option.isSome_iff_exists.1 h
  have hrequire : r.require (.token (.code code)) = .ok e := by
    rw [Registry.require, Registry.resolve, he]
  obtain ⟨_, rfl⟩ := Registry.mem_of_byCode? he
  rw [set, hrequire]
  rfl

theorem setAll_codes {rows : List (Int × Severity)}
    (h : ∀ row ∈ rows, (r.byCode? row.1).isSome = true) (l : Layer) :
    setAll r l (rows.map fun row => (.token (.code row.1), .severity row.2)) =
      .ok ⟨insertAll rows l.levels⟩ := by
  induction rows generalizing l with
  | nil => rfl
  | cons row rows ih =>
      rw [List.map_cons, setAll, set_code (h row List.mem_cons_self)]
      exact ih (fun row hrow => h row (List.mem_cons_of_mem _ hrow)) _

variable {l : Layer} {ref : Ref} {e : Entry} (href : r.require ref = .ok e)

include href

theorem severityOf_of_some {s : Severity} (h : l.levels.lookup e.issue.code = some s) :
    l.severityOf r ref = .ok s := by
  simp only [severityOf, href, severityOfEntry, h]

theorem severityOf_of_none (h : l.levels.lookup e.issue.code = none) :
    l.severityOf r ref = r.effectiveOf ref := by
  simp only [severityOf, href, severityOfEntry, h, Registry.effectiveOf]
  cases r.effective e <;> rfl

end

end DiagnosticCatalog.Layer
