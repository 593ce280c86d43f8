import DiagnosticCatalog.Proofs.Registry.Effect
/-!
Presets. A table that is written to its end leaves with each issue that it lists the severity of its
row, unless a user has set that issue, and every other entry as it was.
-/

namespace DiagnosticCatalog

/-- The entry once the rows of a table are written. -/
def Entry.preset (rows : List (Int × Severity)) (e : Entry) : Entry :=
  if e.userSet then e
  else match rows.lookup e.issue.code with
    | some s => ⟨e.issue, .explicit s, false⟩
    | none => e

theorem Entry.preset_issue (rows : List (Int × Severity)) (e : Entry) :
    (e.preset rows).issue = e.issue := by
  unfold preset
  split
  · rfl
  · split <;> rfl

theorem Entry.preset_of_userSet {e : Entry} (h : e.userSet = true) (rows : List (Int × Severity)) :
    e.preset rows = e := if_pos h

theorem Entry.preset_of_some {e : Entry} (h : e.userSet = false) {rows : List (Int × Severity)}
    {s : Severity} (hs : rows.lookup e.issue.code = some s) :
    e.preset rows = ⟨e.issue, .explicit s, false⟩ := by
  simp only [preset, h, Bool.false_eq_true, if_false, hs]

theorem Entry.preset_of_none {e : Entry} {rows : List (Int × Severity)}
    (h : rows.lookup e.issue.code = none) : e.preset rows = e := by
  simp only [preset, h, ite_self]

theorem Entry.preset_nil (e : Entry) : e.preset [] = e := preset_of_none rfl

theorem Entry.userSet_preset {e : Entry} (h : e.userSet = false) (rows : List (Int × Severity)) :
    (e.preset rows).userSet = false := by
  cases hs : rows.lookup e.issue.code with
  | some s => rw [preset_of_some h hs]
  | none => rw [preset_of_none hs, h]

theorem Entry.preset_cons_of_ne {e : Entry} {code : Int} (h : e.issue.code ≠ code) (s : Severity)
    (rows : List (Int × Severity)) : e.preset ((code, s) :: rows) = e.preset rows := by
  have hb : (e.issue.code == code) = false := by simpa using h
  simp only [preset, List.lookup_cons, hb]

/-- A row for the entry decides, as no other row has its code. -/
theorem Entry.preset_after {e : Entry} (h : ¬e.userSet = true) {s : Severity}
    {rows : List (Int × Severity)} (hrows : e.issue.code ∉ rows.map (·.1)) :
    (e.after [⟨e.issue.code, s, false⟩]).preset rows = e.preset ((e.issue.code, s) :: rows) := by
  have hnone : rows.lookup e.issue.code = none := by
    apply List.lookup_eq_none_iff.2
    intro row hrow
    simp only [bne_iff_ne]
    intro hcode
    exact hrows (List.mem_map.2 ⟨row, hrow, hcode.symm⟩)
  have hsome : ((e.issue.code, s) :: rows).lookup e.issue.code = some s := List.lookup_cons_self
  have huser : e.userSet = false := by simpa using h
  rw [Entry.after_singleton_of_eq rfl, preset_of_some huser hsome]
  exact preset_of_none hnone

namespace Registry

/-- The decimal text of every code in the table is looked up as that code. -/
def Addressed (r : Registry) (rows : List (Int × Severity)) : Prop :=
  ∀ row ∈ rows, r.resolveText (decimalToken row.1) = .ok (r.byCode? row.1)

theorem Addressed.update {r : Registry} {rows : List (Int × Severity)} (h : r.Addressed rows)
    {g : Entry → Entry} (hg : ∀ e, (g e).issue = e.issue) : (r.update g).Addressed rows := by
  intro row hrow
  rw [resolveText_update hg, h row hrow, byCode?_update hg]
  rfl

theorem update_preset_nil (r : Registry) : r.update (Entry.preset []) = r := by
  have hid : r.update (Entry.preset []) = r.update id := update_congr fun e _ => e.preset_nil
  rw [hid, update, List.map_id]

section

variable {r : Registry} (hr : (r.entries.map (·.issue.code)).Nodup) {code : Int} {e : Entry}
  (he : r.byCode? code = some e)

include hr he

theorem update_preset_skip (hu : e.userSet = true) (s : Severity) (rows : List (Int × Severity)) :
    r.update (Entry.preset rows) = r.update (Entry.preset ((code, s) :: rows)) := by
  obtain ⟨hmem, rfl⟩ := mem_of_byCode? he
  apply update_congr
  intro f hf
  by_cases hc : f.issue.code = e.issue.code
  · obtain rfl := eq_of_code hr hf hmem hc
    rw [Entry.preset_of_userSet hu, Entry.preset_of_userSet hu]
  · exact (Entry.preset_cons_of_ne hc s rows).symm

theorem update_preset_put (hu : ¬e.userSet = true) (s : Severity) {rows : List (Int × Severity)}
    (hcode : code ∉ rows.map (·.1)) : (r.put ⟨code, s, false⟩).update (Entry.preset rows) =
      r.update (Entry.preset ((code, s) :: rows)) := by
  obtain ⟨hmem, rfl⟩ := mem_of_byCode? he
  rw [put_eq_update, update_update]
  apply update_congr
  intro f hf
  rw [Function.comp_apply]
  by_cases hc : f.issue.code = e.issue.code
  · obtain rfl := eq_of_code hr hf hmem hc
    exact Entry.preset_after hu hcode
  · rw [Entry.after_singleton_of_ne hc, Entry.preset_cons_of_ne hc]

end

theorem commit_tableEffect {rows : List (Int × Severity)} (hrows : (rows.map (·.1)).Nodup)
    {r : Registry} (hr : (r.entries.map (·.issue.code)).Nodup) (ha : r.Addressed rows)
    (h : (r.tableEffect rows).completes = true) :
    r.commit (r.tableEffect rows).writes = r.update (Entry.preset rows) := by
  induction rows generalizing r with
  | nil =>
      rw [update_preset_nil]
      rfl
  | cons row rows ih =>
      obtain ⟨code, s⟩ := row
      obtain ⟨hcode, hkeys⟩ := List.nodup_cons.1 hrows
      have hown := ha (code, s) List.mem_cons_self
      have hrest : r.Addressed rows := fun row hrow => ha row (List.mem_cons_of_mem _ hrow)
      cases he : r.byCode? code with
      | none =>
          simp only [tableEffect, he] at h
          cases h
      | some e =>
          by_cases hu : e.userSet = true
          · simp only [tableEffect, he, if_pos hu] at h ⊢
            rw [ih hkeys hr hrest h, update_preset_skip hr he hu]
          · have hf : e.issue.code = code := (mem_of_byCode? he).2
            have hput : (r.put ⟨code, s, false⟩).Addressed rows :=
              put_eq_update r _ ▸ hrest.update (Entry.after_issue _)
            simp only [tableEffect, hown, he, if_neg hu, hf] at h ⊢
            change (r.put ⟨code, s, false⟩).commit _ = _
            rw [ih hkeys (codes_put r _ ▸ hr) hput h, update_preset_put hr he hu s hcode]

/-- A table is written to its end where all its codes are found. -/
theorem completes_tableEffect {rows : List (Int × Severity)} {r : Registry} (ha : r.Addressed rows)
    (hcodes : ∀ row ∈ rows, (r.byCode? row.1).isSome = true) :
    (r.tableEffect rows).completes = true := by
  induction rows generalizing r with
  | nil => rfl
  | cons row rows ih =>
      obtain ⟨code, s⟩ := row
      have hown := ha (code, s) List.mem_cons_self
      have hrest : r.Addressed rows := fun row hrow => ha row (List.mem_cons_of_mem _ hrow)
      have hfound := fun row hrow => hcodes row (List.mem_cons_of_mem _ hrow)
      obtain ⟨e, he⟩ := Option.isSome_iff_exists.1 (hcodes (code, s) List.mem_cons_self)
      by_cases hu : e.userSet = true
      · simp only [tableEffect, he, if_pos hu]
        exact ih hrest hfound
      · simp only [tableEffect, hown, he, if_neg hu, Effect.writing]
        refine ih (put_eq_update r _ ▸ hrest.update (Entry.after_issue _)) fun row hrow => ?_
        rw [put_eq_update, byCode?_update (Entry.after_issue _), Option.isSome_map]
        exact hfound row hrow

theorem keys_table : ∀ p : Preset, (p.table.map (·.1)).Nodup := by
  intro p
  cases p <;> decide +kernel

/-- A preset that is applied to its end leaves every entry as its table says. -/
theorem applyPreset_registry {r : Registry} (hr : (r.entries.map (·.issue.code)).Nodup) {p : Preset}
    (ha : r.Addressed p.table) {n : Nat} (h : (r.applyPreset p).outcome = .ok n) :
    (r.applyPreset p).registry = r.update (Entry.preset p.table) := by
  obtain ⟨hregistry, houtcome⟩ := applyPreset_does r p
  rw [hregistry]
  apply commit_tableEffect (keys_table p) hr ha
  rw [← houtcome, h]
  rfl

end Registry

end DiagnosticCatalog
