import DiagnosticCatalog.Proofs.Value.Canonical
/-!
The order of entries and canonical text. Names are made of the keys before the members are put in
order, so where no two keys of a mapping have one name nothing is lost, and the members stand in the
one order that their names have: canonical text does not tell in which order entries were put in.
-/

namespace DiagnosticCatalog

/-- The names of every object, at any depth, go strictly upwards. -/
inductive Json.Ascending : Json → Prop
  | null : Ascending .null
  | truth (b : Bool) : Ascending (.truth b)
  | whole (n : Int) : Ascending (.whole n)
  | real (x : Decimal.Binary64) : Ascending (.real x)
  | text (s : Text) : Ascending (.text s)
  | array {js : List Json} : (∀ j ∈ js, Ascending j) → Ascending (.array js)
  | object {ms : List (Text × Json)} : (ms.Pairwise fun m n => m.1 < n.1) →
      (∀ m ∈ ms, Ascending m.2) → Ascending (.object ms)

namespace Value

/-- Neither a collection nor one that holds itself. -/
def isScalar : Value → Bool
  | list _ | tuple _ | set _ _ | map _ | cycle _ _ => false
  | _ => true

/-- Scalars, members of closed types, and lists, tuples and mappings of such values. The keys of a
mapping are any values, of which no two have the same name. -/
inductive Distinct : Value → Prop
  | scalar {v : Value} : v.isScalar = true → Distinct v
  | list {xs : List Value} : (∀ x ∈ xs, Distinct x) → Distinct (.list xs)
  | tuple {xs : List Value} : (∀ x ∈ xs, Distinct x) → Distinct (.tuple xs)
  | map {es : List (Value × Value)} : (es.map (·.1.display)).Nodup → (∀ e ∈ es, Distinct e.2) →
      Distinct (.map es)

theorem distinct_list_iff {xs : List Value} : (list xs).Distinct ↔ ∀ x ∈ xs, x.Distinct := by
  constructor
  · intro h
    cases h with
    | scalar h => cases h
    | list h => exact h
  · exact .list

theorem distinct_tuple_iff {xs : List Value} : (tuple xs).Distinct ↔ ∀ x ∈ xs, x.Distinct := by
  constructor
  · intro h
    cases h with
    | scalar h => cases h
    | tuple h => exact h
  · exact .tuple

theorem distinct_map_iff {es : List (Value × Value)} :
    (map es).Distinct ↔ (es.map (·.1.display)).Nodup ∧ ∀ e ∈ es, e.2.Distinct := by
  constructor
  · intro h
    cases h with
    | scalar h => cases h
    | map hkeys hvalues => exact ⟨hkeys, hvalues⟩
  · exact fun h => .map h.1 h.2

/-! ## Members -/

theorem toMembers_eq_foldl (done : List (Text × Json)) (es : List (Value × Value)) :
    toMembers done es = (es.map toMember).foldl (fun ms m => Json.insertMember m.1 m.2 ms) done := by
  induction es generalizing done with
  | nil => rfl
  | cons e es ih => rw [toMembers, ih, List.map_cons, List.foldl_cons, toMember]

/-- The members are those of the entries, none lost. -/
theorem members_perm_of_nodup {es : List (Value × Value)} (h : (es.map (·.1.display)).Nodup) :
    (toMembers [] es).Perm (es.map toMember) := by
  have hnames : (es.map toMember).Pairwise fun m n => m.1 ≠ n.1 :=
    List.pairwise_map.2 (List.pairwise_map.1 h)
  exact toMembers_perm hnames

/-- Members in order are told by what they are. -/
theorem eq_of_perm_of_ascend {ms ns : List (Text × Json)} (hms : ms.Pairwise fun m n => m.1 < n.1)
    (hns : ns.Pairwise fun m n => m.1 < n.1) (h : ms.Perm ns) : ms = ns :=
  List.Perm.eq_of_pairwise (fun _ _ _ _ hmn hnm => absurd (List.lt_trans hmn hnm) (List.lt_irrefl _))
    hms hns h

theorem toMembers_eq_of_perm {es fs : List (Value × Value)} (h : es.Perm fs)
    (hes : (es.map (·.1.display)).Nodup) : toMembers [] es = toMembers [] fs := by
  have hfs : (fs.map (·.1.display)).Nodup := (h.map _).nodup_iff.1 hes
  refine eq_of_perm_of_ascend (pairwise_toMembers .nil es) (pairwise_toMembers .nil fs) ?_
  exact (members_perm_of_nodup hes).trans ((h.map _).trans (members_perm_of_nodup hfs).symm)

theorem ascending_of_isScalar {v : Value} (h : v.isScalar = true) : v.toJson.Ascending := by
  cases v with
  | null => exact .null
  | truth b => exact .truth b
  | whole n => exact .whole n
  | real x => exact .real x
  | text s => exact .text s
  | exit e => exact .whole e.code
  | category c =>
      refine .array ?_
      cases c <;> simp only [List.forall_mem_cons, List.not_mem_nil, false_imp_iff, implies_true,
        and_true] <;> exact ⟨.text _, .text _, by constructor⟩
  | list xs => cases h
  | tuple xs => cases h
  | set frozen xs => cases h
  | map es => cases h
  | cycle mark v => cases h
  | date d => exact .text _
  | moment m => exact .text _
  | bytes os => exact .text _
  | severity s => exact .text _
  | inherit => exact .text _
  | named s => exact .text _

theorem Distinct.ascending {v : Value} (h : v.Distinct) : v.toJson.Ascending := by
  induction h with
  | scalar h => exact ascending_of_isScalar h
  | list _ ih =>
      rw [toJson, toJsons_eq_map]
      exact .array (List.forall_mem_map.2 ih)
  | tuple _ ih =>
      rw [toJson, toJsons_eq_map]
      exact .array (List.forall_mem_map.2 ih)
  | map hkeys _ ih =>
      refine .object (pairwise_toMembers .nil _) fun m hm => ?_
      obtain ⟨e, he, rfl⟩ := List.mem_map.1 ((members_perm_of_nodup hkeys).mem_iff.1 hm)
      exact ih e he

/-- The JSON value has an item for each item and a member for each entry, under the name of its key. -/
inductive Shows : Value → Json → Prop
  | scalar {v : Value} : v.isScalar = true → Shows v v.toJson
  | list {xs : List Value} {f : Value → Json} : (∀ x ∈ xs, Shows x (f x)) →
      Shows (.list xs) (.array (xs.map f))
  | tuple {xs : List Value} {f : Value → Json} : (∀ x ∈ xs, Shows x (f x)) →
      Shows (.tuple xs) (.array (xs.map f))
  | map {es : List (Value × Value)} {f : Value → Json} {ms : List (Text × Json)} :
      (∀ e ∈ es, Shows e.2 (f e.2)) → ms.Perm (es.map fun e => (e.1.display, f e.2)) →
      Shows (.map es) (.object ms)

theorem Distinct.shows {v : Value} (h : v.Distinct) : v.Shows v.toJson := by
  induction h with
  | scalar h => exact .scalar h
  | list _ ih =>
      rw [toJson, toJsons_eq_map]
      exact .list ih
  | tuple _ ih =>
      rw [toJson, toJsons_eq_map]
      exact .tuple ih
  | map hkeys _ ih => exact .map ih (members_perm_of_nodup hkeys)

/-! ## Rearranging -/

/-- One part among others may be exchanged for one of the same kind. -/
theorem forall_mem_middle_iff {α : Type} {P : α → Prop} {front back : List α} {a b : α}
    (h : P a ↔ P b) : (∀ x ∈ front ++ a :: back, P x) ↔ ∀ x ∈ front ++ b :: back, P x := by
  rw [List.forall_mem_append, List.forall_mem_append, List.forall_mem_cons, List.forall_mem_cons, h]

namespace Rearranged

variable {v w : Value} (h : v.Rearranged w)

include h

theorem distinct_iff : v.Distinct ↔ w.Distinct := by
  induction h with
  | refl v => rfl
  | symm _ ih => exact ih.symm
  | trans _ _ ih ih' => exact ih.trans ih'
  | perm hperm =>
      rw [distinct_map_iff, distinct_map_iff, (hperm.map _).nodup_iff]
      exact and_congr_right fun _ => forall_congr' fun e => by rw [hperm.mem_iff]
  | item front back _ ih =>
      rw [distinct_list_iff, distinct_list_iff]
      exact forall_mem_middle_iff ih
  | part front back _ ih =>
      rw [distinct_tuple_iff, distinct_tuple_iff]
      exact forall_mem_middle_iff ih
  | entry front back k _ ih =>
      rw [distinct_map_iff, distinct_map_iff]
      refine and_congr (by simp only [List.map_append, List.map_cons]) ?_
      exact forall_mem_middle_iff (P := fun e : Value × Value => e.2.Distinct) ih

/-- The JSON value is the same. A mapping is taken apart from its entries by the order of names. -/
theorem toJson_eq (hv : v.Distinct) : v.toJson = w.toJson := by
  induction h with
  | refl v => rfl
  | symm h ih => exact (ih (h.distinct_iff.2 hv)).symm
  | trans h _ ih ih' => exact (ih hv).trans (ih' (h.distinct_iff.1 hv))
  | perm hperm => exact congrArg Json.object (toMembers_eq_of_perm hperm (distinct_map_iff.1 hv).1)
  | item front back _ ih =>
      have heq := ih (distinct_list_iff.1 hv _ (List.mem_append_right _ List.mem_cons_self))
      simp only [toJson, toJsons_eq_map, List.map_append, List.map_cons, heq]
  | part front back _ ih =>
      have heq := ih (distinct_tuple_iff.1 hv _ (List.mem_append_right _ List.mem_cons_self))
      simp only [toJson, toJsons_eq_map, List.map_append, List.map_cons, heq]
  | entry front back k _ ih =>
      have heq := ih ((distinct_map_iff.1 hv).2 _ (List.mem_append_right _ List.mem_cons_self))
      simp only [toJson, toMembers_eq_foldl, List.map_append, List.map_cons, toMember, heq]

end Rearranged

theorem areWritable_eq_all (xs : List Value) : areWritable xs = xs.all isWritable := by
  induction xs with
  | nil => rfl
  | cons x xs ih => rw [areWritable, ih, List.all_cons]

theorem entriesWritable_eq_all (es : List (Value × Value)) :
    entriesWritable es = es.all fun e => e.1.isWritable && e.2.isWritable := by
  induction es with
  | nil => rfl
  | cons e es ih => rw [entriesWritable, ih, List.all_cons]

theorem Rearranged.isWritable_eq {v w : Value} (h : v.Rearranged w) :
    v.isWritable = w.isWritable := by
  induction h with
  | refl v => rfl
  | symm _ ih => exact ih.symm
  | trans _ _ ih ih' => exact ih.trans ih'
  | perm hperm => simp only [isWritable, entriesWritable_eq_all, hperm.all_eq]
  | item front back _ ih =>
      simp only [isWritable, areWritable_eq_all, List.all_append, List.all_cons, ih]
  | part front back _ ih =>
      simp only [isWritable, areWritable_eq_all, List.all_append, List.all_cons, ih]
  | entry front back k _ ih =>
      simp only [isWritable, entriesWritable_eq_all, List.all_append, List.all_cons, ih]

/-- Two values that differ in the order of entries alone have one canonical text, whatever the margin,
if within each mapping the keys have different names, and none of the two has a number that cannot be
written unless the other has. The text is that of a JSON value that has all items and all entries,
with the names of every object in strictly ascending order of code points. -/
theorem canonicalText_rearranged {v w : Value} (hv : v.Distinct) (h : v.Rearranged w) :
    (∀ indent, v.canonicalText indent = w.canonicalText indent) ∧
    v.isWritable = w.isWritable ∧
    ∃ j : Json, v.Shows j ∧ j.Ascending ∧ ∀ indent,
      v.canonicalText indent = String.ofList (j.render (marginOf indent) 0 ++ ['\n']) := by
  refine ⟨fun indent => ?_, h.isWritable_eq, v.toJson, hv.shows, hv.ascending, fun _ => rfl⟩
  rw [canonicalText, canonicalText, h.toJson_eq hv]

/-- Keys of many kinds. The names of the two numbers are in the order of their digits. -/
def mixedKeys : List Value :=
  [.null, .whole 10, .whole 9, .tuple [.truth true, .severity .lint], .category .apiLint]

/-- A mapping within a list, under the first of the keys. -/
def mixedEntries (inner : List (Value × Value)) : List (Value × Value) :=
  mixedKeys.zip [.list [.map inner, .severity .error], .real .nan, .null, .tuple [],
    .category .apiLint]

def innerEntries : List (Value × Value) := [(.text "b", .whole 1), (.truth false, .text "\u00e9")]

theorem distinct_mixedEntries : (map (mixedEntries innerEntries)).Distinct := by
  have hmixed : (mixedKeys.map display).Nodup := by decide +kernel
  have hinner : (innerEntries.map (·.1.display)).Nodup := by decide +kernel
  refine .map hmixed ?_
  simp only [mixedEntries, mixedKeys, List.zip_cons_cons, List.zip_nil_right, List.forall_mem_cons,
    List.not_mem_nil, false_imp_iff, implies_true, and_true]
  refine ⟨.list ?_, .scalar rfl, .scalar rfl, .tuple (List.forall_mem_nil _), .scalar rfl⟩
  simp only [List.forall_mem_cons, List.not_mem_nil, false_imp_iff, implies_true, and_true]
  refine ⟨.map hinner ?_, .scalar rfl⟩
  simp only [innerEntries, List.forall_mem_cons, List.not_mem_nil, false_imp_iff, implies_true,
    and_true]
  exact ⟨.scalar rfl, .scalar rfl⟩

/-- Both mappings the other way round. -/
theorem canonicalText_rearranged_sample :
    (map (mixedEntries innerEntries)).Distinct ∧
    (map (mixedEntries innerEntries)).Rearranged (map (mixedEntries innerEntries.reverse).reverse) ∧
    (map (mixedEntries innerEntries)).canonicalText (some 2) =
      (map (mixedEntries innerEntries.reverse).reverse).canonicalText (some 2) := by
  have hinner := Rearranged.perm (List.reverse_perm innerEntries).symm
  have hentry : (map (mixedEntries innerEntries)).Rearranged
      (map (mixedEntries innerEntries.reverse)) :=
    .entry [] _ .null (.item [] [.severity .error] hinner)
  have hrearranged := hentry.trans (.perm (List.reverse_perm _).symm)
  exact ⟨distinct_mixedEntries, hrearranged,
    (canonicalText_rearranged distinct_mixedEntries hrearranged).1 (some 2)⟩

end Value

end DiagnosticCatalog
