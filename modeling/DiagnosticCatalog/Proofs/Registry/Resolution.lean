import DiagnosticCatalog.Proofs.Registry.Bootstrap
import DiagnosticCatalog.Proofs.Registry.Failure
import DiagnosticCatalog.Proofs.Text.Lower
/-!
What a text stands for in the standard registry. Names of issues have no blanks, no digits and no two
spellings, so exact names, codes and names in any case never disagree: which of them is tried first
does not show, and neither do blanks around the text or the case of its letters.
-/

namespace DiagnosticCatalog

open Text

/-- Apart from blanks around it the text is a run of digits for the code of the issue, or its name in
letters of any case. -/
inductive Text.Denotes (t : Text) (i : Issue) : Prop
  | code {word : List Char} : t.trim = ofChars word → Decimal.isNumeral word = true →
      word.length ≤ Decimal.digitLimit → (Decimal.ofDigits word : Int) = i.code → Denotes t i
  | name : lowerText t.trim = ofString (lower i.name) → Denotes t i

/-- What `Denotes` says of the text without blanks. -/
def IsWordFor (word : List Char) (i : Issue) : Prop :=
  Decimal.isNumeral word = true ∧ word.length ≤ Decimal.digitLimit ∧
    (Decimal.ofDigits word : Int) = i.code ∨ lowerChars word = lowerChars i.name.toList

theorem Text.denotes_iff {t : Text} {i : Issue} :
    t.Denotes i ↔ ∃ word, t.trim.chars? = some word ∧ IsWordFor word i := by
  have hname : ∀ word, lowerText (ofChars word) = ofString (lower i.name) ↔
      lowerChars word = lowerChars i.name.toList := by
    intro word
    rw [lowerText_ofChars, ofString, ofChars_inj, lower, String.toList_ofList]
  constructor
  · intro h
    cases h with
    | code hword hnumeral hlength hcode =>
        exact ⟨_, chars?_eq_some_iff.2 hword, .inl ⟨hnumeral, hlength, hcode⟩⟩
    | name hfold =>
        have hchars := chars?_lowerText t.trim
        rw [hfold, ofString, chars?_ofChars] at hchars
        obtain ⟨word, hword, _⟩ := Option.map_eq_some_iff.1 hchars.symm
        rw [chars?_eq_some_iff.1 hword] at hfold
        exact ⟨word, hword, .inr ((hname word).1 hfold)⟩
  · rintro ⟨word, hword, ⟨hnumeral, hlength, hcode⟩ | hfold⟩
    · exact .code (chars?_eq_some_iff.1 hword) hnumeral hlength hcode
    · refine .name ?_
      rw [chars?_eq_some_iff.1 hword]
      exact (hname word).2 hfold

theorem Text.overlong_iff {t : Text} : t.Overlong ↔ ∃ word, t.trim.chars? = some word ∧
    Decimal.isNumeral word = true ∧ Decimal.digitLimit < word.length := by
  rw [Overlong, string?, chars?_trim]
  cases t.chars? <;> simp

/-! ## Names -/

namespace Standard

theorem strip_name {d : Declaration} (hd : d ∈ standardDeclarations) :
    strip d.name.toList = d.name.toList :=
  stripOf_eq_self fun _ hc => (plain_of_mem_name hd hc).1

theorem isNumeral_name {d : Declaration} (hd : d ∈ standardDeclarations) :
    Decimal.isNumeral d.name.toList = false := by
  rw [Bool.eq_false_iff, Ne, Decimal.isNumeral, Bool.and_eq_true, Bool.not_eq_true',
    List.isEmpty_eq_false_iff]
  rintro ⟨hne, hall⟩
  obtain ⟨c, hc⟩ := List.exists_mem_of_ne_nil _ hne
  cases (plain_of_mem_name hd hc).2.symm.trans (List.all_eq_true.1 hall c hc)

end Standard

namespace Registry

/-- The entry that a text without blanks around it leads to, as a code or as a name in any case. -/
def resolveWord (r : Registry) (word : List Char) : Except Decimal.Overlong (Option Entry) :=
  if Decimal.isNumeral word then (Decimal.readNumeral word).map fun n : Nat => r.byCode? n
  else .ok (r.byFoldedName? (IssueName.fold (String.ofList word)))

theorem resolveWord_eq_error_iff {r : Registry} {word : List Char} {f : Decimal.Overlong} :
    r.resolveWord word = .error f ↔
      (Decimal.isNumeral word = true ∧ Decimal.digitLimit < word.length) ∧ f = .reading word.length := by
  rw [resolveWord, Decimal.readNumeral]
  by_cases hn : Decimal.isNumeral word = true
  · by_cases hl : Decimal.digitLimit < word.length
    · simp [hn, hl, Except.map, eq_comm]
    · simp [hn, hl, Except.map]
  · simp [hn]

/-- The case of the letters does not matter, nor does it make digits of anything else. -/
theorem resolveWord_lowerChars (r : Registry) (word : List Char) :
    r.resolveWord (lowerChars word) = r.resolveWord word := by
  rw [resolveWord, resolveWord, isNumeral_lowerChars]
  split
  · rename_i hn
    rw [lowerChars_of_isNumeral hn]
  · rw [IssueName.fold, IssueName.fold, lower, lower, String.toList_ofList, String.toList_ofList,
      lowerChars_lowerChars]

section

variable {r : Registry} (h : Reached standardDeclarations r)

include h

theorem Reached.exists_declaration {e : Entry} (he : e ∈ r.entries) :
    ∃ d ∈ standardDeclarations, e.issue.name = d.name := by
  obtain ⟨_, ws, rfl⟩ := h.eq_commit
  rw [entries_commit_build] at he
  obtain ⟨d, hd, rfl⟩ := List.mem_map.1 he
  exact ⟨d, hd, by rw [entryAfter_issue]; rfl⟩

theorem Reached.byCode?_iff {c : Int} {e : Entry} :
    r.byCode? c = some e ↔ e ∈ r.entries ∧ e.issue.code = c :=
  Descent.find?_key_eq_some_iff h.resolvable.codes

theorem Reached.byFoldedName?_iff {s : String} {e : Entry} :
    r.byFoldedName? s = some e ↔ e ∈ r.entries ∧ IssueName.fold e.issue.name = s := by
  obtain ⟨_, ws, rfl⟩ := h.eq_commit
  have hkeys : (((build standardDeclarations).commit ws).entries.map
      fun e => IssueName.fold e.issue.name).Nodup := by
    rw [map_entries_commit_build ws (fun i => IssueName.fold i.name)]
    exact Index.nodup_foldedNames_issues sound_standardDeclarations
  exact Descent.find?_key_eq_some_iff hkeys

/-- The exact name is found as a name in any case too, and it is no number. -/
theorem resolveString_eq (s : String) : r.resolveString s = r.resolveWord (strip s.toList) := by
  cases hname : r.byName? s with
  | none =>
      simp only [resolveString, hname, resolveWord]
      cases Decimal.readNumeral (strip s.toList) <;> rfl
  | some e =>
      have he : e ∈ r.entries := List.mem_of_find?_eq_some hname
      have hs : e.issue.name = s := by simpa using List.find?_some hname
      obtain ⟨d, hd, hdname⟩ := h.exists_declaration he
      obtain rfl : d.name = s := hdname.symm.trans hs
      have hfold : r.byFoldedName? (IssueName.fold d.name) = some e :=
        h.byFoldedName?_iff.2 ⟨he, congrArg IssueName.fold hdname⟩
      rw [resolveString, hname, Standard.strip_name hd, resolveWord, Standard.isNumeral_name hd,
        if_neg Bool.false_ne_true, String.ofList_toList, hfold]

theorem resolveText_eq (t : Text) :
    r.resolveText t = (t.trim.chars?.map r.resolveWord).getD (.ok none) := by
  rw [resolveText, string?, chars?_trim]
  cases t.chars? with
  | none => rfl
  | some cs =>
      simp only [Option.map_some, Option.getD_some]
      rw [resolveString_eq h, String.toList_ofList]

theorem resolveWord_eq_some_iff {word : List Char} {e : Entry} :
    r.resolveWord word = .ok (some e) ↔ e ∈ r.entries ∧ IsWordFor word e.issue := by
  rw [resolveWord, IsWordFor]
  by_cases hn : Decimal.isNumeral word = true
  · have hname : e ∈ r.entries → ¬lowerChars word = lowerChars e.issue.name.toList := by
      intro he hfold
      obtain ⟨d, hd, hdname⟩ := h.exists_declaration he
      have hdigits := congrArg Decimal.isNumeral hfold
      rw [isNumeral_lowerChars, isNumeral_lowerChars, hdname, Standard.isNumeral_name hd, hn] at hdigits
      cases hdigits
    rw [if_pos hn, Decimal.readNumeral]
    by_cases hl : Decimal.digitLimit < word.length
    · simp only [hl, if_true, Except.map, reduceCtorEq, false_iff, not_and, not_or]
      exact fun he => ⟨fun _ hshort => absurd hl (Nat.not_lt.2 hshort), hname he⟩
    · simp only [hl, if_false, Except.map, Except.ok.injEq, h.byCode?_iff, hn, true_and,
        Nat.not_lt.1 hl]
      refine and_congr_right fun he => ?_
      rw [or_iff_left (hname he)]
      exact eq_comm
  · simp only [hn, Bool.false_eq_true, if_false, Except.ok.injEq, h.byFoldedName?_iff, false_and,
      false_or, IssueName.fold, lower, String.ofList_inj, String.toList_ofList]
    exact and_congr_right fun _ => eq_comm

theorem resolveText_eq_some_iff {t : Text} {e : Entry} :
    r.resolveText t = .ok (some e) ↔ e ∈ r.entries ∧ t.Denotes e.issue := by
  rw [resolveText_eq h, Text.denotes_iff]
  cases t.trim.chars? with
  | none => simp
  | some word => simpa using resolveWord_eq_some_iff h

theorem resolveText_eq_error_iff {t : Text} {f : Decimal.Overlong} :
    r.resolveText t = .error f ↔ t.Overlong ∧ f = .reading t.trim.letters.length := by
  rw [resolveText_eq h, Text.overlong_iff]
  cases ht : t.trim.chars? with
  | none => simp
  | some word =>
      have hlength : t.trim.letters.length = word.length := by
        rw [chars?_eq_some_iff.1 ht, ofChars, List.length_map]
      simpa [hlength] using resolveWord_eq_error_iff

theorem resolveText_eq_none_iff {t : Text} :
    r.resolveText t = .ok none ↔ ¬t.Overlong ∧ ∀ e ∈ r.entries, ¬t.Denotes e.issue := by
  rcases ht : r.resolveText t with f | _ | e
  · simp [((resolveText_eq_error_iff h).1 ht).1]
  · refine iff_of_true rfl ⟨fun hlong => ?_, fun e he hdenotes => ?_⟩
    · cases ht.symm.trans ((resolveText_eq_error_iff h).2 ⟨hlong, rfl⟩)
    · cases ht.symm.trans ((resolveText_eq_some_iff h).2 ⟨he, hdenotes⟩)
  · obtain ⟨he, hdenotes⟩ := (resolveText_eq_some_iff h).1 ht
    simp only [Except.ok.injEq, reduceCtorEq, false_iff, not_and]
    exact fun _ hnone => hnone e he hdenotes

theorem resolveText_lowerText (t : Text) : r.resolveText (lowerText t) = r.resolveText t := by
  rw [resolveText_eq h, resolveText_eq h, chars?_trim, chars?_trim, chars?_lowerText]
  cases t.chars? with
  | none => rfl
  | some cs =>
      simp only [Option.map_some, Option.getD_some]
      rw [strip_lowerChars, resolveWord_lowerChars]

theorem resolveText_padded {left right : List Letter} (hleft : ∀ l ∈ left, l.isOf isBlank = true)
    (hright : ∀ l ∈ right, l.isOf isBlank = true) (t : Text) :
    r.resolveText ⟨left ++ t.letters ++ right⟩ = r.resolveText t := by
  rw [resolveText_eq h, resolveText_eq h, trim, stripOf_append hleft hright, trim]

end

/-- In every state of the standard registry a text leads to the one issue that it denotes, by code or
by name; to none where it denotes none; and it fails just if it is a run of too many digits. Blanks
put around it and small letters in place of its own make no difference. -/
theorem resolve_text (ops : List Operation) (t : Text) :
    let r := standard.replay ops
    (∀ e, r.resolve (.text t) = .ok (some e) ↔ e ∈ r.entries ∧ t.Denotes e.issue) ∧
    (∀ e ∈ r.entries, ∀ f ∈ r.entries, t.Denotes e.issue → t.Denotes f.issue → e = f) ∧
    (r.resolve (.text t) = .ok none ↔ ¬t.Overlong ∧ ∀ e ∈ r.entries, ¬t.Denotes e.issue) ∧
    (∀ f, r.resolve (.text t) = .error f ↔ t.Overlong ∧ f = .reading t.trim.letters.length) ∧
    (∀ left right : List Letter, (∀ l ∈ left ++ right, l.isOf isBlank = true) →
      r.resolve (.text ⟨left ++ t.letters ++ right⟩) = r.resolve (.text t)) ∧
    r.resolve (.text (lowerText t)) = r.resolve (.text t) := by
  intro r
  have h : Reached standardDeclarations r := ⟨standard, ops, ofDeclarations_standard, rfl⟩
  refine ⟨fun e => resolveText_eq_some_iff h, ?_, resolveText_eq_none_iff h,
    fun f => resolveText_eq_error_iff h, ?_, resolveText_lowerText h t⟩
  · intro e he f hf hdenotes hdenotes'
    have hfound := (resolveText_eq_some_iff h).2 ⟨he, hdenotes⟩
    exact Option.some.inj (Except.ok.inj
      (hfound.symm.trans ((resolveText_eq_some_iff h).2 ⟨hf, hdenotes'⟩)))
  · intro left right hblank
    obtain ⟨hleft, hright⟩ := List.forall_mem_append.1 hblank
    exact resolveText_padded h hleft hright t

/-- A Kelvin sign has the small letter k, and blanks may be wide. -/
theorem resolve_text_sample : ∃ e ∈ standard.entries, e.issue.code = 2 ∧
    standard.resolve (.text "AddedPac\u212aage") = .ok (some e) ∧
    standard.resolve (.text "\u2003 0002\n") = .ok (some e) := by
  have hfound : (standard.byCode? 2).map (·.issue.name) = some "AddedPackage" := by decide +kernel
  obtain ⟨e, he, hname⟩ := Option.map_eq_some_iff.1 hfound
  obtain ⟨hmem, hcode⟩ := mem_of_byCode? he
  have hkelvin : Denotes "AddedPac\u212aage" e.issue := .name (hname ▸ by decide +kernel)
  have htrim : trim "\u2003 0002\n" = ofChars ['0', '0', '0', '2'] := by decide +kernel
  have hcoded : Denotes "\u2003 0002\n" e.issue :=
    .code htrim (by decide) (by decide) (hcode ▸ rfl)
  exact ⟨e, hmem, hcode, ((resolve_text [] _).1 e).2 ⟨hmem, hkelvin⟩,
    ((resolve_text [] _).1 e).2 ⟨hmem, hcoded⟩⟩

end Registry

end DiagnosticCatalog
