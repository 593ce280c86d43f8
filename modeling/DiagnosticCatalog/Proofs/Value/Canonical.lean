import DiagnosticCatalog.Proofs.Json.RoundTrip
import DiagnosticCatalog.Proofs.Value.Rearranged
import DiagnosticCatalog.Value.Canonical
import Mathlib.Data.List.Basic
/-!
Canonical text. The members of an object are in order, and none is lost where the keys have different
names; so what a document can hold is read back from its canonical text, entries in order, and the
text tells values apart up to the order of their entries.
-/

namespace DiagnosticCatalog

open Text

/-! ## Names in order -/

theorem Letter.code_char_ne (c : Char) (n : Fin 0x800) : (char c).code ≠ (half n).code := by
  have hvalid := c.valid
  simp only [UInt32.isValidChar, Nat.isValidChar] at hvalid
  simp only [code, Char.toNat]
  omega

theorem Letter.code_injective : Function.Injective Letter.code := by
  intro l m h
  cases l with
  | char c =>
      cases m with
      | char d => exact congrArg char (Char.toNat_inj.1 h)
      | half n => exact absurd h (code_char_ne c n)
  | half n =>
      cases m with
      | char d => exact absurd h.symm (code_char_ne d n)
      | half m => exact congrArg half (Fin.ext (Nat.add_left_cancel h))

theorem Text.codes_injective : Function.Injective Text.codes := by
  rintro ⟨ls⟩ ⟨ms⟩ h
  exact congrArg mk (List.map_injective_iff.2 Letter.code_injective h)

theorem Text.lt_of_ne_of_not_lt {s t : Text} (hne : s ≠ t) (h : ¬s < t) : t < s := by
  by_contra hle
  exact hne (codes_injective (List.le_antisymm (List.not_lt.1 hle) (List.not_lt.1 h)))

namespace Json

variable {name : Text} {value : Json} {ms : List (Text × Json)}

theorem mem_insertMember {m : Text × Json} (h : m ∈ insertMember name value ms) :
    m = (name, value) ∨ m ∈ ms := by
  induction ms with
  | nil => exact .inl (List.mem_singleton.1 h)
  | cons n ms ih =>
      rw [insertMember] at h
      split at h
      · exact (List.mem_cons.1 h).imp_right (List.mem_cons_of_mem _)
      · split at h
        · exact List.mem_cons.1 h
        · rcases List.mem_cons.1 h with rfl | h
          · exact .inr List.mem_cons_self
          · exact (ih h).imp_right (List.mem_cons_of_mem _)

theorem pairwise_insertMember (h : ms.Pairwise fun m n => m.1 < n.1) :
    (insertMember name value ms).Pairwise fun m n => m.1 < n.1 := by
  induction ms with
  | nil => exact List.pairwise_singleton _ _
  | cons n ms ih =>
      obtain ⟨hn, hms⟩ := List.pairwise_cons.1 h
      rw [insertMember]
      split
      · rename_i heq
        exact List.pairwise_cons.2 ⟨heq ▸ hn, hms⟩
      split
      · rename_i hlt
        refine List.pairwise_cons.2 ⟨List.forall_mem_cons.2 ⟨hlt, fun m hm => ?_⟩, h⟩
        exact List.lt_trans hlt (hn m hm)
      · rename_i hne hlt
        refine List.pairwise_cons.2 ⟨fun m hm => ?_, ih hms⟩
        rcases mem_insertMember hm with rfl | hm
        · exact lt_of_ne_of_not_lt hne hlt
        · exact hn m hm

/-- A member with a name of its own takes the place of none. -/
theorem insertMember_perm (h : ∀ m ∈ ms, name ≠ m.1) :
    (insertMember name value ms).Perm ((name, value) :: ms) := by
  induction ms with
  | nil => exact .refl _
  | cons n ms ih =>
      obtain ⟨hn, hms⟩ := List.forall_mem_cons.1 h
      rw [insertMember, if_neg hn]
      split
      · exact .refl _
      · exact ((ih hms).cons n).trans (.swap _ _ _)

end Json

namespace Value

/-- What a document can hold with no number that is not whole and no text with halves: the keys of a
mapping are texts, all different, and no number has too many digits to be written. -/
inductive Plain : Value → Prop
  | null : Plain .null
  | truth (b : Bool) : Plain (.truth b)
  | whole {n : Int} : Decimal.isWritable n = true → Plain (.whole n)
  | text (s : String) : Plain (.text s)
  | list {xs : List Value} : (∀ x ∈ xs, Plain x) → Plain (.list xs)
  | map {ms : List (String × Value)} : (ms.map (·.1)).Nodup → (∀ m ∈ ms, Plain m.2) →
      Plain (.map (ms.map fun m => (.text m.1, m.2)))

theorem toJsons_eq_map (xs : List Value) : toJsons xs = xs.map toJson := by
  induction xs with
  | nil => rfl
  | cons x xs ih => rw [toJsons, ih, List.map_cons]

theorem ofJsons_eq_map (js : List Json) : ofJsons js = js.map ofJson := by
  induction js with
  | nil => rfl
  | cons j js ih => rw [ofJsons, ih, List.map_cons]

/-- The member that an entry makes. -/
def toMember (e : Value × Value) : Text × Json := (e.1.display, e.2.toJson)

theorem pairwise_toMembers {done : List (Text × Json)} (h : done.Pairwise fun m n => m.1 < n.1)
    (es : List (Value × Value)) : (toMembers done es).Pairwise fun m n => m.1 < n.1 := by
  induction es generalizing done with
  | nil => exact h
  | cons e es ih =>
      rw [toMembers]
      exact ih (Json.pairwise_insertMember h)

/-- Entries whose keys differ in their names are all there, each as its member. -/
theorem toMembers_perm {done : List (Text × Json)} {es : List (Value × Value)}
    (h : (done ++ es.map toMember).Pairwise fun m n => m.1 ≠ n.1) :
    (toMembers done es).Perm (done ++ es.map toMember) := by
  induction es generalizing done with
  | nil => rw [toMembers, List.map_nil, List.append_nil]
  | cons e es ih =>
      have hfresh : ∀ m ∈ done, (toMember e).1 ≠ m.1 := fun m hm =>
        ((List.pairwise_append.1 h).2.2 m hm _ List.mem_cons_self).symm
      have hinsert : (Json.insertMember (toMember e).1 (toMember e).2 done).Perm (toMember e :: done) :=
        Json.insertMember_perm hfresh
      have hmiddle : (done ++ (e :: es).map toMember).Perm
          (Json.insertMember (toMember e).1 (toMember e).2 done ++ es.map toMember) := by
        rw [List.map_cons]
        exact List.perm_middle.trans (hinsert.symm.append_right _)
      have hdistinct := (hmiddle.pairwise_iff fun hne => hne.symm).1 h
      rw [toMembers]
      exact (ih hdistinct).trans hmiddle.symm

namespace Plain

theorem members_perm {ms : List (String × Value)} (h : (ms.map (·.1)).Nodup) :
    (toMembers [] (ms.map fun m => (.text m.1, m.2))).Perm
      (ms.map fun m => (ofString m.1, m.2.toJson)) := by
  have hmembers : (ms.map fun m => (Value.text m.1, m.2)).map toMember =
      ms.map fun m => (ofString m.1, m.2.toJson) := List.map_map
  have hdistinct : (ms.map fun m => (ofString m.1, m.2.toJson)).Pairwise fun m n => m.1 ≠ n.1 := by
    rw [List.pairwise_map]
    exact (List.pairwise_map.1 h).imp fun hne heq => hne (ofString_inj.1 heq)
  rw [← hmembers] at hdistinct ⊢
  exact toMembers_perm hdistinct

theorem canonical {v : Value} (h : v.Plain) : v.toJson.Canonical := by
  induction h with
  | null => exact .null
  | truth b => exact .truth b
  | whole hn => exact .whole hn
  | text s => exact .text s.toList
  | @list xs _ ih =>
      rw [toJson, toJsons_eq_map]
      exact .array (List.forall_mem_map.2 ih)
  | @map ms hkeys _ ih =>
      have hperm := members_perm hkeys
      refine .object ⟨fun m hm => ?_, pairwise_toMembers .nil _⟩ fun m hm => ?_
      · obtain ⟨n, _, rfl⟩ := List.mem_map.1 (hperm.mem_iff.1 hm)
        exact ⟨n.1.toList, rfl⟩
      · obtain ⟨n, hn, rfl⟩ := List.mem_map.1 (hperm.mem_iff.1 hm)
        exact ih n hn

/-- As a JSON value and back, only the order of entries may be another. -/
theorem rearranged {v : Value} (h : v.Plain) : v.Rearranged (ofJson v.toJson) := by
  induction h with
  | null => exact .refl _
  | truth b => exact .refl _
  | whole hn => exact .refl _
  | text s => exact .refl _
  | @list xs _ ih =>
      rw [toJson, toJsons_eq_map, ofJson, ofJsons_eq_map, List.map_map]
      exact .items ih
  | @map ms hkeys _ ih =>
      have hvalues : ∀ e ∈ ms.map fun m => (Value.text m.1, m.2), e.2.Rearranged (ofJson e.2.toJson) :=
        List.forall_mem_map.2 ih
      have hentries := Rearranged.entries (f := fun v => ofJson v.toJson) hvalues
      have hperm := (members_perm hkeys).map fun m => (Value.text m.1, ofJson m.2)
      rw [List.map_map] at hentries hperm
      rw [toJson, ofJson, ofMembers_eq_map]
      exact hentries.trans (.perm hperm.symm)

end Plain

/-- Canonical text can be read: it stands for the same value, with the names of every object in
code-point order, and it ends a line. So two values with one text differ in the order of their entries
at most, whatever the margins are. -/
theorem read_canonicalText {v : Value} (hv : v.Plain) (indent : Option Int) :
    (∃ j, Json.read (v.canonicalText indent) = .ok j ∧ j.Canonical ∧ v.Rearranged (ofJson j)) ∧
    (∃ body, v.canonicalText indent = body ++ "\n") ∧
    ∀ w indent', w.Plain → w.canonicalText indent' = v.canonicalText indent → v.Rearranged w := by
  have hread : ∀ {w : Value} indent, w.Plain → Json.read (w.canonicalText indent) = .ok w.toJson :=
    fun indent hw => Json.read_render hw.canonical (marginOf indent)
  refine ⟨⟨v.toJson, hread indent hv, hv.canonical, hv.rearranged⟩, ?_, ?_⟩
  · exact ⟨_, String.ofList_append⟩
  · intro w indent' hw htext
    have hjson := hread indent' hw
    rw [htext, hread indent hv] at hjson
    have hback := hw.rearranged.symm
    rw [← Except.ok.inj hjson] at hback
    exact hv.rearranged.trans hback

def sampleMembers : List (String × Value) := [
  ("b", .list [.whole (-7), .truth true, .text "\x22\\\n\x01\u00e9"]), ("a", .map [])]

def sampleValue : Value := .map (sampleMembers.map fun m => (.text m.1, m.2))

theorem plain_sampleValue : sampleValue.Plain := by
  refine .map (by decide) ?_
  simp only [sampleMembers, List.forall_mem_cons, List.not_mem_nil, false_imp_iff, implies_true,
    and_true]
  constructor
  · refine .list ?_
    simp only [List.forall_mem_cons, List.not_mem_nil, false_imp_iff, implies_true, and_true]
    exact ⟨.whole (by decide +kernel), .truth true, .text _⟩
  · exact @Plain.map [] .nil (by simp)

/-- Names out of order, text to be escaped, and lines without a margin. -/
theorem read_canonicalText_sample : ∃ j, Json.read (sampleValue.canonicalText (some (-1))) = .ok j ∧
    j.Canonical ∧ sampleValue.Rearranged (ofJson j) :=
  (read_canonicalText plain_sampleValue (some (-1))).1

end Value

end DiagnosticCatalog
