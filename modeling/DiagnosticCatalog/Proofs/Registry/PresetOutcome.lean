import DiagnosticCatalog.Proofs.Registry.Address
import DiagnosticCatalog.Proofs.Settings
/-!
How a preset ends. Where all its codes are found it comes to its end and counts the rows whose issues
no user has set; to do it again changes nothing. The first code that is no issue's stops it, and what
stands before that row stays written.
-/

namespace DiagnosticCatalog

theorem Entry.userSet_preset_eq (rows : List (Int × Severity)) (e : Entry) :
    (e.preset rows).userSet = e.userSet := by
  cases hu : e.userSet with
  | true => rw [preset_of_userSet hu, hu]
  | false => exact userSet_preset hu rows

theorem Entry.preset_preset (rows : List (Int × Severity)) (e : Entry) :
    (e.preset rows).preset rows = e.preset rows := by
  cases hu : e.userSet with
  | true => rw [preset_of_userSet hu, preset_of_userSet hu]
  | false =>
      cases hs : rows.lookup e.issue.code with
      | some s =>
          rw [preset_of_some hu hs]
          exact preset_of_some rfl hs
      | none => rw [preset_of_none hs, preset_of_none hs]

/-- What a preset leaves of an entry: its own severity and no mark, unless a user has set the issue or
the preset does not list it. -/
inductive Preset.Leaves (p : Preset) (e : Entry) : Entry → Prop
  | written {s : Severity} : e.userSet = false → (e.issue.code, s) ∈ p.table →
      Leaves p e ⟨e.issue, .explicit s, false⟩
  | userSet : e.userSet = true → Leaves p e e
  | unlisted : (∀ s, (e.issue.code, s) ∉ p.table) → Leaves p e e

theorem Preset.leaves_preset (p : Preset) (e : Entry) : p.Leaves e (e.preset p.table) := by
  have hrow := fun s => Table.mem_iff_lookup (Registry.keys_table p) (k := e.issue.code) (a := s)
  cases hu : e.userSet with
  | true =>
      rw [Entry.preset_of_userSet hu]
      exact .userSet hu
  | false =>
      cases hs : p.table.lookup e.issue.code with
      | some s =>
          rw [Entry.preset_of_some hu hs]
          exact .written hu ((hrow s).2 hs)
      | none =>
          rw [Entry.preset_of_none hs]
          refine .unlisted fun s hmem => ?_
          cases hs.symm.trans ((hrow s).1 hmem)

theorem Preset.find_eq_error {name : String} (h : ∀ p : Preset, p.name ≠ name) :
    find name = .error (.preset name) := by
  have hnone : ofName? name = none := List.find?_eq_none.2 fun p _ => by simpa using h p
  rw [find, hnone]

namespace Registry

/-! ## The count of a table -/

/-- How many rows have an issue that no user has set. -/
def openRows (r : Registry) (rows : List (Int × Severity)) : Nat :=
  rows.countP fun row => ∃ e ∈ r.entries, e.issue.code = row.1 ∧ e.userSet = false

theorem openRows_update {r : Registry} {g : Entry → Entry} (hg : ∀ e, (g e).issue = e.issue)
    (hu : ∀ e ∈ r.entries, (g e).userSet = e.userSet) (rows : List (Int × Severity)) :
    (r.update g).openRows rows = r.openRows rows := by
  refine List.countP_congr fun row _ => ?_
  simp only [decide_eq_true_eq, update, List.mem_map, exists_exists_and_eq_and, hg]
  exact exists_congr fun e => and_congr_right fun he => by rw [hu e he]

theorem openRows_cons {r : Registry} (hr : (r.entries.map (·.issue.code)).Nodup) {code : Int}
    {e : Entry} (he : r.byCode? code = some e) (s : Severity) (rows : List (Int × Severity)) :
    r.openRows ((code, s) :: rows) = r.openRows rows + if e.userSet then 0 else 1 := by
  obtain ⟨hmem, rfl⟩ := mem_of_byCode? he
  have hopen : (∃ f ∈ r.entries, f.issue.code = e.issue.code ∧ f.userSet = false) ↔
      e.userSet = false := by
    constructor
    · rintro ⟨f, hf, hcode, hu⟩
      rwa [← eq_of_code hr hf hmem hcode]
    · exact fun hu => ⟨e, hmem, rfl, hu⟩
  rw [openRows, List.countP_cons, openRows]
  cases hu : e.userSet <;> simp [hopen, hu]

/-- A write without a mark to an issue that has none changes no mark. -/
theorem openRows_put {r : Registry} (hr : (r.entries.map (·.issue.code)).Nodup) {e : Entry}
    (he : e ∈ r.entries) (hu : e.userSet = false) (s : Severity) (rows : List (Int × Severity)) :
    (r.put ⟨e.issue.code, s, false⟩).openRows rows = r.openRows rows := by
  rw [put_eq_update]
  refine openRows_update (Entry.after_issue _) (fun f hf => ?_) rows
  by_cases hcode : f.issue.code = e.issue.code
  · obtain rfl := eq_of_code hr hf he hcode
    rw [Entry.after_singleton_of_eq rfl, hu]
  · rw [Entry.after_singleton_of_ne hcode]

/-- A row whose code reads as such is written to the issue with the code. -/
theorem setSeverity_row {r : Registry} {code : Int} {e : Entry}
    (hw : Decimal.isWritable code = true)
    (hown : r.resolveText (decimalToken code) = .ok (some e)) (s : Severity) (userSet : Bool) :
    r.setSeverity (.code code) (.severity s) userSet =
      (r.write e s userSet).map fun _ => true := by
  have hq : request (.code code) (.severity s) = .ok (decimalToken code, s) :=
    request_eq_ok_iff.2 ⟨Token.spelling_code hw, rfl⟩
  rw [setSeverity_of_piece hq (tokenPieces_decimalToken code), named, isEmpty_decimalToken,
    if_neg Bool.false_ne_true, hown]

theorem applyTable_outcome {rows : List (Int × Severity)}
    (hw : ∀ row ∈ rows, Decimal.isWritable row.1 = true) {r : Registry}
    (hr : (r.entries.map (·.issue.code)).Nodup) (ha : r.Addressed rows)
    (hcodes : ∀ row ∈ rows, (r.byCode? row.1).isSome = true) :
    (r.applyTable rows).outcome = .ok (r.openRows rows) := by
  induction rows generalizing r with
  | nil => rfl
  | cons row rows ih =>
      obtain ⟨code, s⟩ := row
      obtain ⟨hcode, hw⟩ := List.forall_mem_cons.1 hw
      obtain ⟨hown, ha⟩ := List.forall_mem_cons.1 ha
      obtain ⟨hfound, hcodes⟩ := List.forall_mem_cons.1 hcodes
      obtain ⟨e, he⟩ := Option.isSome_iff_exists.1 hfound
      rw [openRows_cons hr he]
      cases hu : e.userSet with
      | true =>
          rw [applyTable_cons_of_userSet he hu, if_pos rfl, Nat.add_zero, ih hw hr ha hcodes]
      | false =>
          have hissue := Entry.after_issue [⟨e.issue.code, s, false⟩]
          have hput := put_eq_update r ⟨e.issue.code, s, false⟩
          have hcodes' : ∀ row ∈ rows,
              ((r.put ⟨e.issue.code, s, false⟩).byCode? row.1).isSome = true := fun row hrow => by
            rw [hput, byCode?_update hissue, Option.isSome_map, hcodes row hrow]
          have hrest := ih hw (codes_put r _ ▸ hr) (hput ▸ Addressed.update ha hissue) hcodes'
          rw [openRows_put hr (mem_of_byCode? he).1 hu] at hrest
          rw [he] at hown
          rw [applyTable_cons_of_open he hu, setSeverity_row hcode hown, Run.map_andThen,
            if_neg Bool.false_ne_true]
          exact Run.map_outcome_eq_ok_iff.2 ⟨_, hrest, rfl⟩

/-! ## Presets to their end -/

theorem applyPresetNamed_of_ne {name : String} (h : ∀ p : Preset, p.name ≠ name) (r : Registry) :
    r.applyPresetNamed name = .fail r (.preset name) := by
  rw [applyPresetNamed, Preset.find_eq_error h]

theorem Reached.applyPresetNamed_eq {r : Registry} (h : Reached standardDeclarations r)
    (p : Preset) : (r.applyPresetNamed p.name).outcome = .ok (r.openRows p.table) ∧
      (r.applyPresetNamed p.name).registry = r.update (Entry.preset p.table) := by
  have houtcome := applyTable_outcome (isWritable_table p) h.resolvable.codes (h.addressed p)
    (h.byCode?_table p)
  obtain ⟨_, _, hregistry⟩ := h.applyPreset_leaves p
  rw [applyPresetNamed_name]
  exact ⟨(Run.outcome_noting _ _).trans houtcome, hregistry⟩

/-- In every state of the standard registry a preset comes to its end: each of its codes is an
issue's, the entries are left as it says, and it counts the codes whose issue no user had set. Done
again it changes nothing and counts the same. A name that is no preset's is refused, and nothing is
changed. -/
theorem Reached.applyPresetNamed_leaves {r : Registry} (h : Reached standardDeclarations r) :
    (∀ p : Preset, (∀ row ∈ p.table, ∃ e ∈ r.entries, e.issue.code = row.1) ∧
      List.Forall₂ p.Leaves r.entries (r.applyPresetNamed p.name).registry.entries ∧
      (r.applyPresetNamed p.name).outcome = .ok (r.openRows p.table) ∧
      ((r.applyPresetNamed p.name).registry.applyPresetNamed p.name).registry =
        (r.applyPresetNamed p.name).registry ∧
      ((r.applyPresetNamed p.name).registry.applyPresetNamed p.name).outcome =
        .ok (r.openRows p.table)) ∧
    ∀ name, (∀ p : Preset, p.name ≠ name) → r.applyPresetNamed name = .fail r (.preset name) := by
  refine ⟨fun p => ?_, fun name hname => applyPresetNamed_of_ne hname r⟩
  obtain ⟨houtcome, hregistry⟩ := h.applyPresetNamed_eq p
  have hreached : Reached standardDeclarations (r.applyPresetNamed p.name).registry :=
    h.perform (.applyPreset p.name)
  obtain ⟨hagain, hsame⟩ := hreached.applyPresetNamed_eq p
  refine ⟨fun row hrow => ?found, ?leaves, houtcome, ?same, ?count⟩
  case found =>
    obtain ⟨e, he⟩ := Option.isSome_iff_exists.1 (h.byCode?_table p row hrow)
    exact ⟨e, mem_of_byCode? he⟩
  case leaves =>
    rw [hregistry, update, List.forall₂_map_right_iff, List.forall₂_same]
    exact fun e _ => p.leaves_preset e
  case same =>
    rw [hsame, hregistry, update_update]
    exact update_congr fun e _ => e.preset_preset p.table
  case count =>
    rw [hagain, hregistry, openRows_update (Entry.preset_issue p.table)
      (fun e _ => e.userSet_preset_eq p.table)]

/-- The preset lists 25 codes, one of them of the issue that a user has set. -/
theorem Reached.applyPresetNamed_leaves_sample :
    (sampleStandard.applyPresetNamed "current-compatibility").outcome.toOption = some 24 ∧
      sampleStandard.applyPresetNamed "Current-Compatibility" =
        .fail sampleStandard (.preset "Current-Compatibility") := by
  obtain ⟨hpreset, hother⟩ := reached_sampleStandard.applyPresetNamed_leaves
  have hcount : sampleStandard.openRows Preset.current.table = 24 := by decide +kernel
  have houtcome := (hpreset .current).2.2.1
  rw [hcount] at houtcome
  exact ⟨toOption_eq_some.2 houtcome, hother _ fun p => by cases p <;> decide⟩

/-! ## Presets that stop short -/

/-- One part of a table after the other. -/
theorem applyTable_append (r : Registry) (before after : List (Int × Severity)) :
    r.applyTable (before ++ after) = (r.applyTable before).andThen fun r n =>
      (r.applyTable after).map (n + ·) := by
  induction before generalizing r with
  | nil =>
      rw [List.nil_append, applyTable, Run.done_andThen]
      simp only [Nat.zero_add, Run.map_id]
  | cons row before ih =>
      obtain ⟨code, s⟩ := row
      rw [List.cons_append]
      cases he : r.byCode? code with
      | none =>
          rw [applyTable_cons_of_none he, applyTable_cons_of_none he]
          rfl
      | some e =>
          cases hu : e.userSet with
          | true => rw [applyTable_cons_of_userSet he hu, applyTable_cons_of_userSet he hu, ih]
          | false =>
              simp only [applyTable_cons_of_open he hu, ih, Run.andThen_assoc, Run.andThen_map,
                Run.map_andThen, Run.map_map, Function.comp_def, Nat.add_right_comm]

/-- A number that can be written stops no request for it. -/
theorem setSeverity_code_leaves {code : Int} (hw : Decimal.isWritable code = true) (r : Registry)
    (s : Severity) (userSet : Bool) : ∃ found ws,
      (r.setSeverity (.code code) (.severity s) userSet).outcome = .ok found ∧
        (r.setSeverity (.code code) (.severity s) userSet).registry = r.commit ws := by
  have hdoes := setSeverity_code_does r hw s userSet
  have hq : request (.code code) (.severity s) = .ok (decimalToken code, s) :=
    request_eq_ok_iff.2 ⟨Token.spelling_code hw, rfl⟩
  have hok : (r.setSeverity (.code code) (.severity s) userSet).outcome.isOk = true := by
    obtain ⟨e?, he⟩ := exists_of_isOk
      (isOk_named_iff.2 fun hstops => not_overlong_decimalToken hw hstops.1 : (r.named _).isOk = true)
    rw [setSeverity_of_piece hq (tokenPieces_decimalToken code), he]
    cases e? <;> rfl
  obtain ⟨found, hfound⟩ := exists_of_isOk hok
  exact ⟨found, _, hfound, hdoes.registry⟩

/-- A table is written to its end just if all its codes are issues'. -/
theorem isOk_applyTable_iff {rows : List (Int × Severity)}
    (hw : ∀ row ∈ rows, Decimal.isWritable row.1 = true) (r : Registry) :
    (r.applyTable rows).outcome.isOk = true ↔ ∀ row ∈ rows, (r.byCode? row.1).isSome = true := by
  induction rows generalizing r with
  | nil => exact iff_of_true rfl fun _ hrow => by cases hrow
  | cons row rows ih =>
      obtain ⟨code, s⟩ := row
      obtain ⟨hcode, hw⟩ := List.forall_mem_cons.1 hw
      rw [List.forall_mem_cons]
      cases he : r.byCode? code with
      | none =>
          rw [applyTable_cons_of_none he]
          simp [Run.fail, Except.isOk, Except.toBool]
      | some e =>
          cases hu : e.userSet with
          | true =>
              rw [applyTable_cons_of_userSet he hu, ih hw]
              exact (and_iff_right rfl).symm
          | false =>
              obtain ⟨found, ws, hfound, hregistry⟩ := setSeverity_code_leaves hcode r s false
              simp only [applyTable_cons_of_open he hu, Run.andThen, hfound, isOk_map, hregistry,
                ih hw, Option.isSome_some, true_and]
              simp only [commit_eq_update, byCode?_update (Entry.after_issue ws), Option.isSome_map]

/-- A row without an issue stops the table; what stands before it is written. -/
theorem applyTable_of_missing {r : Registry} {before : List (Int × Severity)}
    {row : Int × Severity} (after : List (Int × Severity))
    (hw : ∀ row ∈ before, Decimal.isWritable row.1 = true)
    (hcode : Decimal.isWritable row.1 = true)
    (hbefore : ∀ row ∈ before, (r.byCode? row.1).isSome = true) (hrow : r.byCode? row.1 = none) :
    (r.applyTable (before ++ row :: after)).outcome = .error (.issue (.token (.code row.1))) ∧
      (r.applyTable (before ++ row :: after)).registry = (r.applyTable before).registry := by
  obtain ⟨n, hn⟩ := exists_of_isOk ((isOk_applyTable_iff hw r).2 hbefore)
  obtain ⟨code, s⟩ := row
  have hmissing : (r.applyTable before).registry.byCode? code = none := by
    rw [(applyTable_does r before hw).registry, commit_eq_update,
      byCode?_update (Entry.after_issue _), hrow]
    rfl
  have hstop : (r.applyTable before).registry.applyTable ((code, s) :: after) =
      .fail (r.applyTable before).registry (.issue (.token (.code code))) := by
    rw [applyTable_cons_of_none hmissing, Failure.unknown_code hcode]
  rw [applyTable_append]
  simp only [Run.andThen, hn, hstop, Run.fail, Run.map, Except.map, and_self]

/-- Where codes read as such, the rows that are written leave every entry as they say. -/
theorem Reached.applyTable_leaves {ds : List Declaration} {r : Registry} (h : Reached ds r)
    {rows : List (Int × Severity)} (hkeys : (rows.map (·.1)).Nodup)
    (hw : ∀ row ∈ rows, Decimal.isWritable row.1 = true)
    (hcodes : ∀ row ∈ rows, (r.byCode? row.1).isSome = true)
    (hreads : ∀ row ∈ rows, r.ReadsAsCode row.1) :
    (r.applyTable rows).registry = r.update (Entry.preset rows) := by
  obtain ⟨x, hx⟩ := h.faithful
  have ha : r.Addressed rows := fun row hrow =>
    (hx.resolveText_decimalToken_eq_iff (hw row hrow)).2 (hreads row hrow)
  rw [(applyTable_does r rows hw).registry]
  exact commit_tableEffect hkeys h.resolvable.codes ha (completes_tableEffect ha hcodes)

/-- In every state from accepted declarations a preset that there is not changes nothing. One that
there is fails just if one of its codes is no issue's, at the first row of such a code, and the rows
before it stay written: where codes read as such these issues are left as the rows say, and so the
state is as it was only if that is what it said before. -/
theorem Reached.applyPresetNamed_stops {ds : List Declaration} {r : Registry} (h : Reached ds r) :
    (∀ name, (∀ p : Preset, p.name ≠ name) → r.applyPresetNamed name = .fail r (.preset name)) ∧
    ∀ p : Preset,
      ((r.applyPresetNamed p.name).outcome.isOk = true ↔
        ∀ row ∈ p.table, ∃ e ∈ r.entries, e.issue.code = row.1) ∧
      ∀ before row after, p.table = before ++ row :: after →
        (∀ row ∈ before, ∃ e ∈ r.entries, e.issue.code = row.1) →
        (∀ e ∈ r.entries, e.issue.code ≠ row.1) →
        (r.applyPresetNamed p.name).outcome = .error (.issue (.token (.code row.1))) ∧
        (r.applyPresetNamed p.name).registry = (r.applyTable before).registry ∧
        ((∀ row ∈ before, r.ReadsAsCode row.1) →
          (r.applyPresetNamed p.name).registry = r.update (Entry.preset before) ∧
          ((r.applyPresetNamed p.name).registry = r ↔ ∀ e ∈ r.entries, e.preset before = e)) := by
  refine ⟨fun name hname => applyPresetNamed_of_ne hname r, fun p => ⟨?_, ?_⟩⟩
  · rw [applyPresetNamed_name, applyPreset, Run.outcome_noting,
      isOk_applyTable_iff (isWritable_table p)]
    simp only [isSome_byCode?_iff]
  · intro before row after htable hbefore hrow
    have hwritable := isWritable_table p
    have hkeys := keys_table p
    rw [htable] at hwritable hkeys
    obtain ⟨hw, hrest⟩ := List.forall_mem_append.1 hwritable
    have hcodes : ∀ row ∈ before, (r.byCode? row.1).isSome = true := fun row hrow =>
      isSome_byCode?_iff.2 (hbefore row hrow)
    have hmissing : r.byCode? row.1 = none := by
      rw [← Option.not_isSome_iff_eq_none, isSome_byCode?_iff]
      rintro ⟨e, he, hcode⟩
      exact hrow e he hcode
    obtain ⟨houtcome, hregistry⟩ := applyTable_of_missing after hw (hrest row List.mem_cons_self) hcodes
      hmissing
    rw [applyPresetNamed_name, applyPreset, Run.outcome_noting, Run.registry_noting, htable,
      houtcome, hregistry]
    refine ⟨rfl, rfl, fun hreads => ?_⟩
    have hnodup : (before.map (·.1)).Nodup := by
      rw [List.map_append] at hkeys
      exact hkeys.of_append_left
    rw [h.applyTable_leaves hnodup hw hcodes hreads, update_eq_self_iff]
    exact ⟨rfl, Iff.rfl⟩

/-- Two issues of the current preset's 25. -/
def shortDeclarations : List Declaration := [
  leveled 2 "ADDED_PACKAGE" .warning .compatibility none,
  leveled 3 "ADDED_CLASS" .warning .compatibility none]

theorem ofDeclarations_short : ofDeclarations shortDeclarations = .ok (build shortDeclarations) := by
  decide +kernel

theorem Reached.applyPresetNamed_stops_sample :
    ((build shortDeclarations).applyPresetNamed "current-compatibility").outcome =
        .error (.issue (.token (.code 4))) ∧
      ((build shortDeclarations).applyPresetNamed "current-compatibility").registry =
        (build shortDeclarations).update (Entry.preset [(2, .error), (3, .error)]) := by
  have h : Reached shortDeclarations (build shortDeclarations) := ⟨_, [], ofDeclarations_short, rfl⟩
  have htable : Preset.current.table =
      [(2, .error), (3, .error)] ++ (4, .error) :: Preset.current.table.drop 3 := by decide +kernel
  obtain ⟨houtcome, _, hleaves⟩ := (h.applyPresetNamed_stops.2 .current).2 _ _ _ htable
    (by decide +kernel) (by decide +kernel)
  refine ⟨houtcome, (hleaves ?_).1⟩
  simp only [List.forall_mem_cons, List.not_mem_nil, false_imp_iff, implies_true, and_true]
  exact ⟨⟨by decide +kernel, by decide⟩, ⟨by decide +kernel, by decide⟩⟩

/-- The preset fails, and both issues are changed. -/
theorem applyPresetNamed_partial :
    ofDeclarations shortDeclarations = .ok (build shortDeclarations) ∧
      ((build shortDeclarations).applyPresetNamed "current-compatibility").outcome.toOption = none ∧
      ((build shortDeclarations).applyPresetNamed "current-compatibility").registry.entries.map
          (fun e => (e.issue.code, e.level, e.userSet)) =
        [(2, .explicit .error, false), (3, .explicit .error, false)] ∧
      (build shortDeclarations).entries.map (fun e => (e.issue.code, e.level, e.userSet)) =
        [(2, .explicit .warning, false), (3, .explicit .warning, false)] :=
  ⟨ofDeclarations_short, by decide +kernel, by decide +kernel, by decide +kernel⟩

end Registry

end DiagnosticCatalog
