import DiagnosticCatalog.Proofs.IssueName
import DiagnosticCatalog.Proofs.Registry.Inheritance
import DiagnosticCatalog.Proofs.Registry.Preset
import DiagnosticCatalog.Proofs.Text.Octets
import Mathlib.Data.List.Nodup
/-!
The declarations compiled in are sound, and none of their names is a number, so the presets reach
the issues that they list.
-/

namespace DiagnosticCatalog

open Declaration Text

namespace Standard

/-- What identifiers of the table are made of: capitals and underscores. -/
def isCapital (n : Nat) : Bool := Nat.ble 0x41 n && Nat.ble n 0x5A || n == 0x5F

/-- The small letter of an ASCII character, by number. -/
def lowerCode (n : Nat) : Nat := if isCapital n && n != 0x5F then n + 0x20 else n

/-- Numbers below `0x80` as the digits of one, so that names are compared at once. -/
def key (ns : List Nat) : Nat := ns.foldr (fun n k => n + 0x80 * k) 0

/-- What the folded name of an identifier consists of. -/
def foldedCodes (identifier : String) : List Nat :=
  ((octets identifier).map lowerCode).filter (· != 0x5F)

def areDistinct : List Nat → Bool
  | [] => true
  | n :: ns => ns.all (n != ·) && areDistinct ns

theorem nodup_of_areDistinct {ns : List Nat} (h : areDistinct ns = true) : ns.Nodup := by
  induction ns with
  | nil => exact .nil
  | cons n ns ih =>
      obtain ⟨hn, hns⟩ := Bool.and_eq_true_iff.1 h
      refine List.nodup_cons.2 ⟨fun hmem => ?_, ih hns⟩
      have hne := List.all_eq_true.1 hn n hmem
      simp at hne

/-! ## The table -/

set_option maxRecDepth 20000 in
theorem identifiers_spec : ((standardDeclarations.all fun d => (octets d.identifier).all isCapital) &&
    areDistinct (standardDeclarations.map fun d => key (foldedCodes d.identifier))) = true := by
  decide +kernel

set_option maxRecDepth 20000 in
theorem codes_spec : (areDistinct (standardDeclarations.map (·.code.toNat)) &&
    standardDeclarations.all fun d => (retiredCodes.lookup d.code).isNone) = true := by
  decide +kernel

set_option maxRecDepth 20000 in
theorem parents_spec : ∀ d ∈ standardDeclarations,
    (d.level ≠ .inherit → d.parent? = none) ∧
      (d.level = .inherit →
        ∃ p ∈ standardDeclarations, d.parent? = some p.identifier ∧ p.level ≠ .inherit) := by
  decide +kernel

theorem lt_of_isCapital {n : Nat} (h : isCapital n = true) : n < 0x80 := by
  simp only [isCapital, Bool.or_eq_true, Bool.and_eq_true, Nat.ble_eq, beq_iff_eq] at h
  omega

theorem octets_identifier {d : Declaration} (h : d ∈ standardDeclarations) :
    octets d.identifier = d.identifier.toList.map Char.toNat := by
  have hcapital := List.all_eq_true.1 (Bool.and_eq_true_iff.1 identifiers_spec).1 d h
  exact octets_eq fun n hn => lt_of_isCapital (List.all_eq_true.1 hcapital n hn)

theorem isCapital_of_mem {d : Declaration} (h : d ∈ standardDeclarations) {c : Char}
    (hc : c ∈ d.identifier.toList) : isCapital c.toNat = true := by
  have hcapital := List.all_eq_true.1 (Bool.and_eq_true_iff.1 identifiers_spec).1 d h
  rw [octets_identifier h] at hcapital
  exact List.all_eq_true.1 hcapital _ (List.mem_map_of_mem hc)

theorem ascii_identifier {d : Declaration} (h : d ∈ standardDeclarations) :
    Ascii d.identifier.toList := by
  intro c hc
  exact lt_of_isCapital (isCapital_of_mem h hc)

theorem lowerCode_toNat {c : Char} (h : c.toNat < 0x80) : c.toLower.toNat = lowerCode c.toNat :=
  forall_ascii (P := fun c => c.toLower.toNat = lowerCode c.toNat) (by decide) h

theorem filter_toNat (cs : List Char) :
    (cs.map Char.toNat).filter (· != 0x5F) = (cs.filter (· ≠ '_')).map Char.toNat := by
  rw [List.filter_map]
  congr 2
  funext c
  by_cases hc : c = '_'
  · subst hc
    decide
  · have hn : c.toNat ≠ 0x5F := fun h => hc (Char.toNat_inj.1 h)
    simp [hc, hn]

theorem map_toNat_foldedName {d : Declaration} (h : d ∈ standardDeclarations) :
    d.foldedName.toList.map Char.toNat = foldedCodes d.identifier := by
  have hlower : d.identifier.toList.map (lowerCode ∘ Char.toNat) =
      d.identifier.toList.map (Char.toNat ∘ Char.toLower) :=
    List.map_congr_left fun c hc => (lowerCode_toNat (ascii_identifier h c hc)).symm
  rw [foldedName, name, IssueName.fold_derive (ascii_identifier h), String.toList_ofList,
    foldedCodes, octets_identifier h, List.map_map, hlower, ← List.map_map, filter_toNat]

theorem names_nodup : (standardDeclarations.map foldedName).Nodup := by
  refine List.Nodup.of_map (fun s => key (s.toList.map Char.toNat)) ?_
  have hkey : ∀ d ∈ standardDeclarations,
      ((fun s => key (s.toList.map Char.toNat)) ∘ foldedName) d = key (foldedCodes d.identifier) := by
    intro d hd
    rw [Function.comp_apply, map_toNat_foldedName hd]
  rw [List.map_map, List.map_congr_left hkey]
  exact nodup_of_areDistinct (Bool.and_eq_true_iff.1 identifiers_spec).2

theorem identifiers_nodup : (standardDeclarations.map (·.identifier)).Nodup := by
  refine List.Nodup.of_map (fun s => IssueName.fold (IssueName.derive s)) ?_
  rw [List.map_map]
  exact names_nodup

theorem codes_nodup : (standardDeclarations.map (·.code)).Nodup := by
  refine List.Nodup.of_map Int.toNat ?_
  rw [List.map_map]
  exact nodup_of_areDistinct (Bool.and_eq_true_iff.1 codes_spec).1

/-- What small letters of identifiers are among. -/
def isSmallMark (c : Char) : Bool := 0x61 ≤ c.toNat && c.toNat ≤ 0x7A || c.toNat == 0x5F

theorem isSmallMark_toLower {c : Char} (h : isCapital c.toNat = true) : isSmallMark c.toLower = true :=
  forall_ascii (P := fun c => isCapital c.toNat = true → isSmallMark c.toLower = true) (by decide)
    (lt_of_isCapital h) h

theorem plain_of_isSmallMark {c : Char} (hc : c.toNat < 0x80) (h : isSmallMark c.toLower = true) :
    isBlank c = false ∧ Decimal.isDigit c = false :=
  forall_ascii (P := fun c => isSmallMark c.toLower = true →
    isBlank c = false ∧ Decimal.isDigit c = false) (by decide) hc h

/-- A name has neither blanks nor digits. -/
theorem plain_of_mem_name {d : Declaration} (hd : d ∈ standardDeclarations) {c : Char}
    (hc : c ∈ d.name.toList) : isBlank c = false ∧ Decimal.isDigit c = false := by
  rw [Declaration.name, IssueName.derive, String.toList_ofList] at hc
  have hascii := ascii_identifier hd
  obtain ⟨b, hb, hbc⟩ := IssueName.mem_of_mem_ofIdentifier hascii hc
  refine plain_of_isSmallMark (IssueName.ascii_ofIdentifier hascii c hc) ?_
  rw [← hbc]
  exact isSmallMark_toLower (isCapital_of_mem hd hb)

theorem grounded {d : Declaration} (h : d ∈ standardDeclarations) :
    Grounded standardDeclarations d := by
  cases hlevel : d.level with
  | explicit s => exact .of_explicit hlevel
  | inherit =>
      obtain ⟨p, hp, hparent, hne⟩ := (parents_spec d h).2 hlevel
      refine (grounded_iff_heir hlevel).2 ⟨p, ?_, ?_⟩
      · rw [heir?_of_inherit hlevel, hparent]
        exact find?_identifier identifiers_nodup hp
      · cases hp' : p.level with
        | explicit s => exact .of_explicit hp'
        | inherit => exact absurd hp' hne

end Standard

theorem sound_standardDeclarations : Sound standardDeclarations where
  codes := Standard.codes_nodup
  current d hd := Option.isNone_iff_eq_none.1
    (List.all_eq_true.1 (Bool.and_eq_true_iff.1 Standard.codes_spec).2 d hd)
  identifiers := Standard.identifiers_nodup
  names := Standard.names_nodup
  parentless d hd := (Standard.parents_spec d hd).1
  grounded _ hd := Standard.grounded hd

namespace Registry

/-- The registry of the declarations compiled in, as it is at first. -/
def standard : Registry := build standardDeclarations

theorem ofDeclarations_standard : ofDeclarations standardDeclarations = .ok standard :=
  ofDeclarations_eq_ok_iff.2 ⟨sound_standardDeclarations, rfl⟩

/-- No name of an issue has a digit. -/
theorem byName?_standard_of_isDigit {s : String} {c : Char} (hc : c ∈ s.toList)
    (hdigit : Decimal.isDigit c = true) : standard.byName? s = none := by
  refine List.find?_eq_none.2 fun e he => ?_
  obtain ⟨d, hd, rfl⟩ := List.mem_map.1 he
  rw [decide_eq_true_eq]
  intro hname
  have hplain := (Standard.plain_of_mem_name hd (hname ▸ hc)).2
  cases hdigit.symm.trans hplain

theorem byName?_standard (n : Nat) : standard.byName? (Decimal.intText n) = none := by
  obtain ⟨c, hc⟩ := List.exists_mem_of_ne_nil _ (Decimal.digits_ne_nil n)
  exact byName?_standard_of_isDigit (toList_intText n ▸ hc) (Decimal.isDigit_of_mem_digits hc)

theorem nodup_codes_standard : (standard.entries.map (·.issue.code)).Nodup := by
  have hcodes := codes_commit_build standardDeclarations []
  exact hcodes ▸ sound_standardDeclarations.codes

theorem codes_table_nonneg : ∀ p : Preset, ∀ row ∈ p.table, 0 ≤ row.1 := by
  intro p
  cases p <;> decide +kernel

theorem addressed_standard (p : Preset) : standard.Addressed p.table := by
  intro row hrow
  obtain ⟨n, hn⟩ := Int.eq_ofNat_of_zero_le (codes_table_nonneg p row hrow)
  have hw := isWritable_table p row hrow
  rw [hn] at hw ⊢
  exact resolveText_decimalToken_eq standard hw (byName?_standard n)

theorem codes_table_declared : ∀ p : Preset, ∀ row ∈ p.table,
    row.1 ∈ standardDeclarations.map (·.code) := by
  intro p
  cases p <;> decide +kernel

namespace Reached

variable {r : Registry} (h : Reached standardDeclarations r)

include h

theorem addressed (p : Preset) : r.Addressed p.table := by
  obtain ⟨_, ws, rfl⟩ := h.eq_commit
  rw [commit_eq_update]
  exact (addressed_standard p).update (Entry.after_issue ws)

theorem byCode?_table (p : Preset) : ∀ row ∈ p.table, (r.byCode? row.1).isSome = true := by
  intro row hrow
  obtain ⟨_, ws, rfl⟩ := h.eq_commit
  have hcode := codes_table_declared p row hrow
  rw [← codes_commit_build standardDeclarations ws] at hcode
  obtain ⟨e, he, hcode⟩ := List.mem_map.1 hcode
  exact List.find?_isSome.2 ⟨e, he, decide_eq_true hcode⟩

/-- No preset stops short. -/
theorem completes_preset (p : Preset) : (r.tableEffect p.table).completes = true :=
  completes_tableEffect (h.addressed p) (h.byCode?_table p)

theorem applyPreset_leaves (p : Preset) : ∃ n, (r.applyPreset p).outcome = .ok n ∧
    (r.applyPreset p).registry = r.update (Entry.preset p.table) := by
  have hok : (r.applyPreset p).outcome.isOk = true := by
    rw [(applyPreset_does r p).outcome]
    exact h.completes_preset p
  obtain ⟨n, hn⟩ := exists_of_isOk hok
  exact ⟨n, hn, applyPreset_registry h.resolvable.codes (h.addressed p) hn⟩

end Reached

theorem reached_standard : Reached standardDeclarations standard :=
  ⟨standard, [], ofDeclarations_standard, rfl⟩

/-- A user has spoken of one issue that both presets list. -/
def sampleStandard : Registry :=
  standard.replay [.setSeverity (.text "AddedMethod") (.severity .info) true]

theorem reached_sampleStandard : Reached standardDeclarations sampleStandard :=
  ⟨standard, _, ofDeclarations_standard, rfl⟩

end Registry

end DiagnosticCatalog
