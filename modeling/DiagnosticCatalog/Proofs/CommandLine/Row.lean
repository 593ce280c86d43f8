import DiagnosticCatalog.Proofs.CommandLine.Precedence
import DiagnosticCatalog.Proofs.Table
import DiagnosticCatalog.Proofs.Value.Canonical
/-!
Rows of a listing, as text and as JSON. The loop over lines and the loop over objects come to the
same entries with the same severities, or to the same fault. What a row tells of an issue can be read
from its line, where it stands in columns, and from its object, where it has a name; both readers are
given here, and both find what the row was made from, as long as the issue fits into the columns.
-/

namespace DiagnosticCatalog

open Text

/-- A member is found under its name, wherever the canonical order puts it. -/
theorem Value.member?_toJson {ms : List (String × Value)} (h : (ms.map (·.1)).Nodup) {name : String}
    {v : Value} (hv : (name, v) ∈ ms) :
    (Value.map (ms.map fun m => (.text m.1, m.2))).toJson.member? name = some v.toJson := by
  have hperm := Plain.members_perm h
  have hnames : ((ms.map fun m => (ofString m.1, m.2.toJson)).map Prod.fst).Nodup := by
    have hmap := h.map (f := ofString) fun _ _ => ofString_inj.1
    rw [List.map_map] at hmap ⊢
    exact hmap
  rw [toJson, Json.member?, ← Table.mem_iff_lookup ((hperm.map Prod.fst).nodup_iff.2 hnames),
    hperm.mem_iff]
  exact List.mem_map_of_mem (f := fun m : String × Value => (ofString m.1, m.2.toJson)) hv

namespace Text

theorem length_padLeft {width : Nat} {s : String} (h : s.length ≤ width) :
    (padLeft width s).toList.length = width := by
  rw [padLeft, String.toList_append, String.toList_ofList, List.length_append,
    List.length_replicate, String.length_toList]
  omega

theorem length_padRight {width : Nat} {s : String} (h : s.length ≤ width) :
    (padRight width s).toList.length = width := by
  rw [padRight, String.toList_append, String.toList_ofList, List.length_append,
    List.length_replicate, String.length_toList]
  omega

theorem isBlank_of_mem_replicate {n : Nat} {c : Char} (h : c ∈ List.replicate n ' ') :
    isBlank c = true := by
  obtain rfl := List.eq_of_mem_replicate h
  decide

/-- Blanks that fill up a text without any are all that is stripped off. -/
theorem strip_filled {cs : List Char} (h : ∀ c ∈ cs, isBlank c = false) (m n : Nat) :
    strip (List.replicate m ' ' ++ cs ++ List.replicate n ' ') = cs :=
  (stripOf_append (fun _ => isBlank_of_mem_replicate) (fun _ => isBlank_of_mem_replicate) cs).trans
    (stripOf_eq_self h)

theorem strip_padLeft {width : Nat} {s : String} (h : ∀ c ∈ s.toList, isBlank c = false) :
    strip (padLeft width s).toList = s.toList := by
  have hfilled := strip_filled h (width - s.length) 0
  rw [List.replicate_zero, List.append_nil] at hfilled
  rwa [padLeft, String.toList_append, String.toList_ofList]

theorem strip_padRight {width : Nat} {s : String} (h : ∀ c ∈ s.toList, isBlank c = false) :
    strip (padRight width s).toList = s.toList := by
  have hfilled := strip_filled h 0 (width - s.length)
  rw [List.replicate_zero, List.nil_append] at hfilled
  rwa [padRight, String.toList_append, String.toList_ofList]

/-- What stands in a column, without the blanks that fill it up. -/
def column (start width : Nat) (line : String) : List Char :=
  strip ((line.toList.drop start).take width)

theorem column_eq (before field after : List Char) {start width : Nat} {line : String}
    (hline : line.toList = before ++ (field ++ after)) (hstart : before.length = start)
    (hwidth : field.length = width) : column start width line = strip field := by
  rw [column, hline, List.drop_left' hstart, List.take_left' hwidth]

end Text

/-- What the columns of a listing have room for: a code of four digits, a name of forty letters. -/
structure Issue.Fits (i : Issue) : Prop where
  code : ∃ n : Nat, i.code = n ∧ n < Nat.pow 10 4
  name : ∀ c ∈ i.name.toList, isBlank c = false
  short : i.name.length ≤ 40

/-- The numbers among the fields of an issue have not too many digits. -/
structure Issue.Writable (i : Issue) : Prop where
  code : Decimal.isWritable i.code = true
  parent : ∀ c, i.parentCode? = some c → Decimal.isWritable c = true

theorem Severity.find?_word (s : Severity) : Severity.all.find? (·.word = s.word) = some s := by
  cases s <;> decide

theorem Severity.word_spec (s : Severity) :
    (∀ c ∈ s.word.toList, isBlank c = false) ∧ s.word.length ≤ 8 := by
  have hall : (s.word.toList.all fun c => !isBlank c) = true ∧ s.word.length ≤ 8 := by
    cases s <;> decide
  exact hall.imp_left fun h c hc => by simpa using List.all_eq_true.1 h c hc

theorem Level.eq_inherit_of_word {l : Level} (h : l.word = inheritWord) : l = .inherit := by
  cases l with
  | inherit => rfl
  | explicit s => cases s <;> exact absurd h (by decide)

namespace CommandLine

/-- What a listing tells of an issue in either format. -/
structure Told where
  code : Int
  userSet : Bool
  reported : Severity
  deriving DecidableEq, Repr

/-- A user's choice is marked by an asterisk, any other level by nothing. -/
def markOf? : List Char → Option Bool
  | ['*'] => some true
  | [] => some false
  | _ => none

def severityOf? (word : String) : Option Severity := Severity.all.find? (·.word = word)

namespace Told

/-- From a line: the code stands in front, the mark behind it, and the severity behind the name. -/
def ofLine? (line : String) : Option Told :=
  if Decimal.isNumeral (column 0 4 line) then do
    let marked ← markOf? (column 5 1 line)
    let s ← severityOf? (String.ofList (column 49 8 line))
    return ⟨Decimal.ofDigits (column 0 4 line), marked, s⟩
  else none

/-- From an object, by the names of its members. -/
def ofRow? (row : Json) : Option Told :=
  match row.member? "code", row.member? "user_set", row.member? "reported_severity" with
  | some (.whole n), some (.truth marked), some (.text word) => do
    return ⟨n, marked, ← word.string?.bind severityOf?⟩
  | _, _, _ => none

end Told

/-! ## Two loops -/

/-- Entries with their effective severities, or the first fault met. -/
def withSeverity (r : Registry) (es : List Entry) :
    Except CatalogFailure (List (Entry × Severity)) :=
  es.mapM fun e => (r.effective e).map fun t => (e, t)

theorem withSeverity_cons_of_error {r : Registry} {e : Entry} {f : CatalogFailure}
    (h : r.effective e = .error f) (es : List Entry) : withSeverity r (e :: es) = .error f := by
  rw [withSeverity, List.mapM_cons, h]
  rfl

theorem withSeverity_cons_of_ok {r : Registry} {e : Entry} {t : Severity}
    (h : r.effective e = .ok t) (es : List Entry) :
    withSeverity r (e :: es) = (withSeverity r es).map ((e, t) :: ·) := by
  rw [withSeverity, List.mapM_cons, h, withSeverity]
  cases es.mapM fun e => (r.effective e).map fun t => (e, t) with
  | error f => rfl
  | ok xs => rfl

theorem of_withSeverity {r : Registry} {es : List Entry} {xs : List (Entry × Severity)}
    (h : withSeverity r es = .ok xs) :
    xs.map Prod.fst = es ∧ ∀ x ∈ xs, r.effective x.1 = .ok x.2 := by
  induction es generalizing xs with
  | nil =>
      obtain rfl := Except.ok.inj h
      exact ⟨rfl, List.forall_mem_nil _⟩
  | cons e es ih =>
      cases he : r.effective e with
      | error f => cases (withSeverity_cons_of_error he es).symm.trans h
      | ok t =>
          rw [withSeverity_cons_of_ok he] at h
          cases hxs : withSeverity r es with
          | error f =>
              rw [hxs] at h
              cases h
          | ok ys =>
              rw [hxs] at h
              obtain rfl := Except.ok.inj h
              obtain ⟨hfst, heffective⟩ := ih hxs
              exact ⟨congrArg (e :: ·) hfst, List.forall_mem_cons.2 ⟨he, heffective⟩⟩

/-- The loop over objects comes to the entries with their severities, or to the same fault. -/
theorem jsonRows_eq (p : Promotion) (r : Registry) (done : List Value) (es : List Entry) :
    jsonRows p r done es = (withSeverity r es).map fun xs =>
      done ++ xs.map fun x => objectOf (detailWith p r x.1 x.2) := by
  induction es generalizing done with
  | nil => exact congrArg Except.ok (List.append_nil done).symm
  | cons e es ih =>
      rw [jsonRows, detailOf_eq]
      cases he : r.effective e with
      | error f =>
          rw [withSeverity_cons_of_error he]
          rfl
      | ok t =>
          rw [withSeverity_cons_of_ok he]
          simp only [Except.map, ih]
          cases withSeverity r es with
          | error f => rfl
          | ok xs => simp

/-- And so does the loop over lines, which looks a severity up but once. -/
theorem textLines_eq (p : Promotion) (r : Registry) (written : String) (es : List Entry) :
    textLines p r written es = (withSeverity r es).map fun xs =>
      written ++ textOf (xs.map fun x => lineOf x.1 (x.2.reported p)) := by
  induction es generalizing written with
  | nil => exact congrArg Except.ok (String.append_empty).symm
  | cons e es ih =>
      rw [textLines, reportedOf]
      cases he : r.effective e with
      | error f =>
          rw [withSeverity_cons_of_error he]
          rfl
      | ok t =>
          rw [withSeverity_cons_of_ok he]
          simp only [Except.map, ih]
          cases withSeverity r es with
          | error f => rfl
          | ok xs => simp [textOf, String.append_assoc]

/-! ## Lines -/

theorem toList_line (e : Entry) (s : Severity) : (lineOf e s).toList =
    (padLeft 4 (Decimal.intText e.issue.code)).toList ++
      (' ' :: (if e.userSet then '*' else ' ') :: ' ' ::
        ((padRight 40 e.issue.name).toList ++ (' ' :: ' ' ::
          ((padRight 8 s.word).toList ++
            (' ' :: ' ' :: e.issue.category.description.toList))))) := by
  rw [lineOf]
  cases e.userSet <;> simp

theorem columns_eq {code name word rest : List Char} {mark : Char} {line : String}
    (hline : line.toList =
      code ++ (' ' :: mark :: ' ' :: (name ++ (' ' :: ' ' :: (word ++ rest)))))
    (hcode : code.length = 4) (hname : name.length = 40) (hword : word.length = 8) :
    column 0 4 line = strip code ∧ column 5 1 line = strip [mark] ∧
      column 49 8 line = strip word := by
  refine ⟨column_eq [] code _ hline rfl hcode, ?_, ?_⟩
  · exact column_eq (code ++ [' ']) [mark] (' ' :: (name ++ ' ' :: ' ' :: (word ++ rest)))
      (by simp [hline]) (by simp [hcode]) rfl
  · exact column_eq (code ++ ' ' :: mark :: ' ' :: (name ++ [' ', ' '])) word rest
      (by simp [hline]) (by simp [hcode, hname]) hword

theorem markOf?_strip (userSet : Bool) :
    markOf? (strip [if userSet then '*' else ' ']) = some userSet := by
  cases userSet <;> decide

theorem ofLine?_line {e : Entry} (h : e.issue.Fits) (s : Severity) :
    Told.ofLine? (lineOf e s) = some ⟨e.issue.code, e.userSet, s⟩ := by
  obtain ⟨n, hn, hlt⟩ := h.code
  obtain ⟨hplain, hwidth⟩ := s.word_spec
  have hdigits : (Decimal.intText e.issue.code).toList = Decimal.digits n := by
    rw [hn]
    exact toList_intText n
  have hnumeral : ∀ c ∈ (Decimal.intText e.issue.code).toList, isBlank c = false := by
    rw [hdigits]
    exact fun c hc => Decimal.not_isBlank_of_isDigit (.inl (Decimal.isDigit_of_mem_digits hc))
  have hshort : (Decimal.intText e.issue.code).length ≤ 4 := by
    rw [← String.length_toList, hdigits]
    exact Decimal.length_digits_le (by decide) hlt
  obtain ⟨hcode, hmark, hword⟩ := columns_eq (toList_line e s) (length_padLeft hshort)
    (length_padRight h.short) (length_padRight hwidth)
  rw [strip_padLeft hnumeral, hdigits] at hcode
  rw [strip_padRight hplain] at hword
  rw [Told.ofLine?, hcode, hmark, hword, if_pos (Decimal.isNumeral_digits n), markOf?_strip,
    String.ofList_toList, severityOf?, s.find?_word, Decimal.ofDigits_digits, hn]
  rfl

/-- A listing has one line to an issue. -/
theorem newline_not_mem_line {e : Entry} (h : e.issue.Fits) (s : Severity) :
    '\n' ∉ (lineOf e s).toList := by
  have hpad : ∀ n : Nat, '\n' ∉ List.replicate n ' ' := fun n hmem => by
    cases List.eq_of_mem_replicate hmem
  have hplain : ∀ cs : List Char, (∀ c ∈ cs, isBlank c = false) → '\n' ∉ cs := fun cs hcs hmem => by
    cases (hcs _ hmem).symm.trans (by decide : isBlank '\n' = true)
  obtain ⟨n, hn, _⟩ := h.code
  have hcode : '\n' ∉ (Decimal.intText e.issue.code).toList := by
    rw [toList_intText]
    exact hplain _ fun c hc => Decimal.not_isBlank_of_isDigit (Decimal.mem_intDigits hc)
  have hname := hplain _ h.name
  have hword := hplain _ s.word_spec.1
  have hdescription : '\n' ∉ e.issue.category.description.toList := by
    cases e.issue.category <;> decide
  have hmark : '\n' ≠ if e.userSet then '*' else ' ' := by
    cases e.userSet <;> decide
  rw [toList_line]
  simp [padLeft, padRight, hpad, hcode, hname, hword, hdescription, hmark]

/-! ## Objects -/

/-- The names of all fields that a row can have, in the order in which they are given. -/
def fieldNames : List String :=
  ["code", "name", "declared_id", "default_level", "category"] ++ ["parent_code"] ++ ["rule"] ++
    ["explanation"] ++ (["level", "effective_severity", "user_set", "category_description"] ++
      ["rule_link"] ++ ["parent"]) ++ ["reported_severity"]

theorem names_textField (name : String) (text? : Option String) :
    ((textField name text?).map (·.1)).Sublist [name] := by
  unfold textField
  split
  · split
    · exact List.nil_sublist _
    · exact .refl _
  · exact List.nil_sublist _

theorem names_detailWith (p : Promotion) (r : Registry) (e : Entry) (t : Severity) :
    ((detailWith p r e t).map (·.1)).Sublist fieldNames := by
  simp only [detailWith, Issue.fields, Registry.stateFields, List.map_append]
  refine ((((List.Sublist.refl _).append ?_).append (names_textField _ _)).append
    (names_textField _ _)).append (((List.Sublist.refl _).append (names_textField _ _)).append
      ?_) |>.append (.refl _)
  · cases e.issue.parentCode? with
    | none => exact List.nil_sublist _
    | some c => exact .refl _
  · cases r.parentOf? e.issue with
    | none => exact List.nil_sublist _
    | some q => exact .refl _

theorem nodup_names_detailWith (p : Promotion) (r : Registry) (e : Entry) (t : Severity) :
    ((detailWith p r e t).map (·.1)).Nodup :=
  (names_detailWith p r e t).nodup (by decide)

theorem plain_textField (name : String) (text? : Option String) :
    ∀ f ∈ textField name text?, f.2.Plain := by
  intro f hf
  unfold textField at hf
  split at hf
  · split at hf
    · cases hf
    · obtain rfl := List.mem_singleton.1 hf
      exact .text _
  · cases hf

theorem plain_detailWith (p : Promotion) (r : Registry) {e : Entry} (h : e.issue.Writable)
    (t : Severity) : (objectOf (detailWith p r e t)).Plain := by
  refine .map (nodup_names_detailWith p r e t) ?_
  simp only [detailWith, Issue.fields, Registry.stateFields, List.forall_mem_append,
    List.forall_mem_cons, List.not_mem_nil, false_imp_iff, implies_true, and_true]
  refine ⟨⟨⟨⟨⟨⟨.whole h.code, .text _, .text _, .text _, .text _⟩, ?_⟩, plain_textField _ _⟩,
    plain_textField _ _⟩, ⟨⟨.text _, .text _, .truth _, .text _⟩, plain_textField _ _⟩, ?_⟩, .text _⟩
  · cases hc : e.issue.parentCode? with
    | none => exact List.forall_mem_nil _
    | some c => exact List.forall_mem_singleton.2 (.whole (h.parent c hc))
  · cases r.parentOf? e.issue with
    | none => exact List.forall_mem_nil _
    | some q => exact List.forall_mem_singleton.2 (.text _)

theorem member?_detailWith (p : Promotion) (r : Registry) (e : Entry) (t : Severity) (name : String)
    (v : Value) (hv : (name, v) ∈ detailWith p r e t) :
    (objectOf (detailWith p r e t)).toJson.member? name = some v.toJson :=
  Value.member?_toJson (nodup_names_detailWith p r e t) hv

theorem ofRow?_detailWith (p : Promotion) (r : Registry) (e : Entry) (t : Severity) :
    Told.ofRow? (objectOf (detailWith p r e t)).toJson =
      some ⟨e.issue.code, e.userSet, t.reported p⟩ := by
  have hcode := member?_detailWith p r e t "code" (.whole e.issue.code)
    (by simp [detailWith, Issue.fields])
  have hmark := member?_detailWith p r e t "user_set" (.truth e.userSet)
    (by simp [detailWith, Registry.stateFields])
  have hreported := member?_detailWith p r e t "reported_severity"
    (.text (t.reported p).word) (by simp [detailWith])
  simp only [Told.ofRow?, hcode, hmark, hreported, Value.toJson, string?_ofString, Option.bind_some,
    severityOf?, Severity.find?_word]
  rfl

/-- What a row tells of a level: the stored one and the one in effect, which are the same unless the
stored one is inherited; then the parent is named and it is the parent's that is in effect. -/
structure Tells (r : Registry) (e : Entry) (t : Severity) (row : Json) : Prop where
  level : row.member? "level" = some (.text e.level.word)
  effective : row.member? "effective_severity" = some (.text t.word)
  own : row.member? "level" ≠ some (.text inheritWord) →
    row.member? "effective_severity" = row.member? "level"
  inherited : row.member? "level" = some (.text inheritWord) →
    ∃ q ∈ r.entries, e.issue.parentCode? = some q.issue.code ∧
      row.member? "parent" = some (.text q.issue.name) ∧ r.effective q = .ok t

theorem tells_detailWith (p : Promotion) {r : Registry} (hr : r.Resolvable) {e : Entry}
    (he : e ∈ r.entries) {t : Severity} (ht : r.effective e = .ok t) :
    Tells r e t (objectOf (detailWith p r e t)).toJson := by
  have hlevel := member?_detailWith p r e t "level" (.text e.level.word)
    (by simp [detailWith, Registry.stateFields])
  have heffective := member?_detailWith p r e t "effective_severity" (.text t.word)
    (by simp [detailWith, Registry.stateFields])
  refine ⟨hlevel, heffective, fun hne => ?_, fun hinherit => ?_⟩
  · cases hl : e.level with
    | inherit => exact absurd (by rw [hlevel, hl]; rfl) hne
    | explicit s =>
        obtain rfl := Except.ok.inj (ht.symm.trans (Registry.climb_explicit hl [e.issue.code]))
        rw [hlevel, heffective, hl]
        rfl
  · rw [hlevel] at hinherit
    have hword : ofString e.level.word = ofString inheritWord := by
      simpa [Value.toJson] using hinherit
    have hl := Level.eq_inherit_of_word (ofString_inj.1 hword)
    obtain ⟨q, hq, hparent, hcode, heffective⟩ := hr.exists_parent he hl ht
    have hname := member?_detailWith p r e t "parent" (.text q.issue.name)
      (by simp [detailWith, Registry.stateFields, hparent])
    exact ⟨q, hq, hcode, hname, heffective⟩

end CommandLine

end DiagnosticCatalog
