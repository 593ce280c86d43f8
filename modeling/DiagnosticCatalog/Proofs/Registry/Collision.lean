import DiagnosticCatalog.Proofs.IssueName
import DiagnosticCatalog.Proofs.Registry.Address
import DiagnosticCatalog.Proofs.Text.Ascii
/-!
When names collide. With ASCII identifiers two names differ in case alone just if the identifiers
differ in case and underscores alone, and such identifiers are not accepted side by side. What is left
of an identifier without its underscores, in letters of any case, leads to its issue: no issue has it
for an exact name but this one, and with a letter in it no code is meant.
-/

namespace DiagnosticCatalog

open Text

namespace IssueName

/-- The identifier in small letters, with its underscores deleted. -/
def condensed (identifier : String) : String :=
  String.ofList ((lower identifier).toList.filter (· ≠ '_'))

/-- ASCII letters, digits and underscores, with a letter among them. -/
structure IsWord (identifier : String) : Prop where
  marks : ∀ c ∈ identifier.toList, c.isAlphanum = true ∨ c = '_'
  letter : ∃ c ∈ identifier.toList, c.isAlpha = true

/-- The text is the identifier with its underscores deleted, up to the case of ASCII letters. -/
def Spells (text identifier : String) : Prop :=
  text.toList.map Char.toLower = (identifier.toList.filter (· ≠ '_')).map Char.toLower

instance (text identifier : String) : Decidable (Spells text identifier) :=
  inferInstanceAs (Decidable (_ = _))

theorem filter_map_toLower {cs : List Char} (h : Ascii cs) :
    (cs.map Char.toLower).filter (· ≠ '_') = (cs.filter (· ≠ '_')).map Char.toLower := by
  rw [List.filter_map]
  congr 1
  refine List.filter_congr fun c hc => ?_
  exact forall_ascii (P := fun c => decide (c.toLower ≠ '_') = decide (c ≠ '_')) (by decide) (h c hc)

theorem fold_derive_eq_condensed {identifier : String} (h : Ascii identifier.toList) :
    fold (derive identifier) = condensed identifier := by
  rw [fold_derive h, condensed, lower, String.toList_ofList, lowerChars_ascii h]

theorem IsWord.ascii {identifier : String} (h : IsWord identifier) : Ascii identifier.toList := by
  intro c hc
  rcases h.marks c hc with hmark | rfl
  · exact ascii_of_isAlphanum hmark
  · decide

section

variable {text identifier : String} (ht : Spells text identifier) (h : IsWord identifier)

include ht

theorem Spells.mem_iff (a : Char) : (∃ c ∈ text.toList, c.toLower = a) ↔
    ∃ d ∈ identifier.toList, d ≠ '_' ∧ d.toLower = a := by
  have hmem : a ∈ text.toList.map Char.toLower ↔
      a ∈ (identifier.toList.filter (· ≠ '_')).map Char.toLower := by rw [ht]
  simpa only [List.mem_map, List.mem_filter, decide_eq_true_eq, and_assoc] using hmem

include h

theorem Spells.ascii : Ascii text.toList := by
  intro c hc
  obtain ⟨d, hd, _, hcd⟩ := (ht.mem_iff c.toLower).1 ⟨c, hc, rfl⟩
  exact ascii_of_toLower (hcd ▸ toLower_ascii (h.ascii d hd))

theorem Spells.isAlphanum {c : Char} (hc : c ∈ text.toList) : c.isAlphanum = true := by
  obtain ⟨d, hd, hmark, hcd⟩ := (ht.mem_iff c.toLower).1 ⟨c, hc, rfl⟩
  rw [← isAlphanum_toLower (ht.ascii h c hc), ← hcd, isAlphanum_toLower (h.ascii d hd)]
  exact (h.marks d hd).resolve_right hmark

theorem Spells.exists_letter : ∃ c ∈ text.toList, c.isAlpha = true := by
  obtain ⟨d, hd, hletter⟩ := h.letter
  have hmark : d ≠ '_' := by
    rintro rfl
    exact absurd hletter (by decide)
  obtain ⟨c, hc, hcd⟩ := (ht.mem_iff d.toLower).2 ⟨d, hd, hmark, rfl⟩
  refine ⟨c, hc, ?_⟩
  rw [← isAlpha_toLower (ht.ascii h c hc), hcd, isAlpha_toLower (h.ascii d hd), hletter]

theorem Spells.not_isBlank {c : Char} (hc : c ∈ text.toList) : isBlank c = false :=
  forall_ascii (P := fun c => c.isAlphanum = true → isBlank c = false) (by decide)
    (ht.ascii h c hc) (ht.isAlphanum h hc)

theorem Spells.not_isNumeral : Decimal.isNumeral text.toList = false := by
  obtain ⟨c, hc, hletter⟩ := ht.exists_letter h
  have hdigit : Decimal.isDigit c = false :=
    forall_ascii (P := fun c => c.isAlpha = true → Decimal.isDigit c = false) (by decide)
      (ht.ascii h c hc) hletter
  rw [Bool.eq_false_iff, Ne, Decimal.isNumeral, Bool.and_eq_true, List.all_eq_true]
  rintro ⟨_, hall⟩
  cases hdigit.symm.trans (hall c hc)

theorem Spells.fold_eq : fold text = fold (derive identifier) := by
  rw [fold_derive h.ascii, filter_map_toLower h.ascii, fold, lower,
    lowerChars_ascii (ht.ascii h), ht]

end

end IssueName

/-! ## Declarations -/

namespace Declaration

variable {ds : List Declaration}

theorem map_foldedName (hascii : ∀ d ∈ ds, Ascii d.identifier.toList) :
    ds.map foldedName = ds.map fun d => IssueName.condensed d.identifier :=
  List.map_congr_left fun d hd => IssueName.fold_derive_eq_condensed (hascii d hd)

theorem exists_fault_of_names (h : ¬(ds.map foldedName).Nodup) : ∃ f, check ds = .error f := by
  cases hcheck : check ds with
  | error f => exact ⟨f, rfl⟩
  | ok _ => exact absurd (check_eq_ok_iff.1 hcheck).names h

end Declaration

/-! ## Look-ups -/

namespace Registry

open IssueName

/-- A text without blanks that is no number is looked for in any case: its exact name is found so too. -/
theorem Faithful.resolveString_of_word {ds : List Declaration} {x : Index} {r : Registry}
    (h : Faithful ds x r) {s : String} (hblank : ∀ c ∈ s.toList, isBlank c = false)
    (hnumeral : Decimal.isNumeral s.toList = false) :
    r.resolveString s = .ok (r.byFoldedName? (fold s)) := by
  have hstrip : strip s.toList = s.toList := stripOf_eq_self hblank
  cases hname : r.byName? s with
  | some e => rw [resolveString, hname, h.byFoldedName?_of_byName? hname]
  | none =>
      rw [resolveString, hname]
      simp only [hstrip, hnumeral, Bool.false_eq_true, if_false, String.ofList_toList]

theorem Reached.exists_entry {ds : List Declaration} {r : Registry} (h : Reached ds r)
    {d : Declaration} (hd : d ∈ ds) : ∃ e ∈ r.entries, e.issue.StandsFor d := by
  obtain ⟨_, ws, rfl⟩ := h.eq_commit
  refine ⟨entryAfter ds ws d, ?_, ?_⟩
  · rw [entries_commit_build]
    exact List.mem_map_of_mem hd
  · rw [entryAfter_issue]
    exact standsFor_issueOf ds d

theorem Reached.resolve_of_spells {ds : List Declaration} {r : Registry} (h : Reached ds r)
    {d : Declaration} (hd : d ∈ ds) (hword : IsWord d.identifier) {text : String}
    (ht : Spells text d.identifier) :
    ∃ e, r.resolve (.text text) = .ok (some e) ∧ e.issue.StandsFor d := by
  obtain ⟨x, hx⟩ := h.faithful
  obtain ⟨e, he, hstands⟩ := h.exists_entry hd
  have hfold : fold text = fold e.issue.name := by
    rw [ht.fold_eq hword, hstands.name]
  have hfound : r.byFoldedName? (fold text) = some e := hfold ▸ hx.byFoldedName? e he
  refine ⟨e, ?_, hstands⟩
  rw [resolve, resolveText, string?_ofString]
  change r.resolveString text = _
  rw [hx.resolveString_of_word (fun _ hc => ht.not_isBlank hword hc) (ht.not_isNumeral hword), hfound]

/-- The folded name of an ASCII identifier is the identifier in small letters with its underscores
deleted. So names of ASCII identifiers collide just if that is the same of two of them, and the check
then faults the declarations. Accepted declarations make a registry in which, after any history, an
identifier of letters, digits and underscores leads to the issue declared under it when its
underscores are left out and its letters are in any case. -/
theorem condensed_tells_names_apart :
    (∀ s : String, Ascii s.toList → fold (derive s) = condensed s) ∧
    (∀ ds : List Declaration, (∀ d ∈ ds, Ascii d.identifier.toList) →
      ((ds.map Declaration.foldedName).Nodup ↔ (ds.map fun d => condensed d.identifier).Nodup) ∧
      (¬(ds.map fun d => condensed d.identifier).Nodup → ∃ f, Declaration.check ds = .error f)) ∧
    ∀ ds, Declaration.check ds = .ok () → ∃ r, ofDeclarations ds = .ok r ∧
      ∀ ops, ∀ d ∈ ds, IsWord d.identifier → ∀ text : String, Spells text d.identifier →
        ∃ e, (r.replay ops).resolve (.text text) = .ok (some e) ∧ e.issue.StandsFor d := by
  refine ⟨fun s => fold_derive_eq_condensed, fun ds hascii => ?names, fun ds hcheck => ?found⟩
  case names =>
    rw [← Declaration.map_foldedName hascii]
    exact ⟨Iff.rfl, Declaration.exists_fault_of_names⟩
  case found =>
    have hbuild := ofDeclarations_eq_ok_iff.2 ⟨Declaration.check_eq_ok_iff.1 hcheck, rfl⟩
    refine ⟨_, hbuild, fun ops d hd hword text ht => ?_⟩
    exact Reached.resolve_of_spells ⟨_, ops, hbuild, rfl⟩ hd hword ht

/-- One identifier begins with the code of another issue, and with the name of a third. -/
def wordDeclarations : List Declaration := [
  leveled 2 "x_" .lint .compatibility none,
  leveled 12 "2__X_" .warning .compatibility none,
  leveled 40 "2" .info .compatibility none]

def collidingDeclarations : List Declaration := [
  leveled 2 "ADDED_CLASS" .lint .compatibility none,
  leveled 3 "_AddedClass" .lint .compatibility none]

theorem condensed_tells_names_apart_sample :
    fold (derive "A__b_7") = condensed "A__b_7" ∧
    (∃ f, Declaration.check collidingDeclarations = .error f) ∧
    ∃ r, ofDeclarations wordDeclarations = .ok r ∧
      ∃ e, (r.replay sampleHistory).resolve (.text "2x") = .ok (some e) ∧ e.issue.code = 12 := by
  obtain ⟨hfold, hnames, hfound⟩ := condensed_tells_names_apart
  refine ⟨hfold _ (ascii_of_all (by decide)), (hnames _ ?ascii).2 (by decide +kernel), ?found⟩
  case ascii =>
    have hall : ∀ d ∈ collidingDeclarations,
        (d.identifier.toList.all fun c => decide (c.toNat < 0x80)) = true := by decide
    exact fun d hd => ascii_of_all (hall d hd)
  case found =>
    obtain ⟨r, hr, hresolve⟩ := hfound wordDeclarations (by decide +kernel)
    have hmarks : ("2__X_".toList.all fun c => c.isAlphanum || c == '_') = true := by decide
    have hword : IsWord "2__X_" := by
      refine ⟨?_, 'X', by decide, by decide⟩
      simpa only [List.all_eq_true, Bool.or_eq_true, beq_iff_eq] using hmarks
    obtain ⟨e, he, hstands⟩ := hresolve sampleHistory (leveled 12 "2__X_" .warning .compatibility none)
      (by decide) hword "2x" (by decide +kernel)
    exact ⟨r, hr, e, he, hstands.code⟩

end Registry

end DiagnosticCatalog
