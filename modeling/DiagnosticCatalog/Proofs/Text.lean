import DiagnosticCatalog.Text.Blank
/-!
Text without halves is a string. The pieces between separators are free of them, and with separators
between them they are the whole.
-/

namespace DiagnosticCatalog.Text

@[simp] theorem chars?_ofChars (cs : List Char) : (ofChars cs).chars? = some cs := by
  induction cs with
  | nil => rfl
  | cons c cs ih =>
      simp only [chars?, ofChars, List.map_cons, List.mapM_cons] at ih ⊢
      rw [ih]
      rfl

@[simp] theorem string?_ofString (s : String) : (ofString s).string? = some s := by
  simp only [string?, ofString, chars?_ofChars, Option.map_some, String.ofList_toList]

theorem ofChars_of_chars? {t : Text} {cs : List Char} (h : t.chars? = some cs) : ofChars cs = t := by
  obtain ⟨ls⟩ := t
  rw [ofChars, Text.mk.injEq]
  rw [chars?] at h
  induction ls generalizing cs with
  | nil =>
      obtain rfl := Option.some.inj h
      rfl
  | cons l ls ih =>
      rw [List.mapM_cons] at h
      cases l with
      | half n => cases h
      | char c =>
          obtain ⟨d, hd, h⟩ := Option.bind_eq_some_iff.1 h
          obtain ⟨ds, hds, hcs⟩ := Option.bind_eq_some_iff.1 h
          obtain rfl := Option.some.inj hd
          obtain rfl := Option.some.inj hcs
          rw [List.map_cons, ih hds]

theorem chars?_eq_some_iff {t : Text} {cs : List Char} : t.chars? = some cs ↔ t = ofChars cs := by
  constructor
  · exact fun h => (ofChars_of_chars? h).symm
  · rintro rfl
    exact chars?_ofChars cs

theorem ofChars_inj {cs ds : List Char} : ofChars cs = ofChars ds ↔ cs = ds := by
  rw [← chars?_eq_some_iff, chars?_ofChars, Option.some.injEq]

theorem string?_eq_some_iff {t : Text} {s : String} : t.string? = some s ↔ ofString s = t := by
  constructor
  · intro h
    obtain ⟨cs, hcs, rfl⟩ := Option.map_eq_some_iff.1 h
    rw [ofString, String.toList_ofList, ofChars_of_chars? hcs]
  · rintro rfl
    exact string?_ofString s

@[simp] theorem ofString_inj {s t : String} : ofString s = ofString t ↔ s = t := by
  rw [← string?_eq_some_iff, string?_ofString, Option.some.injEq]
  exact eq_comm

@[simp] theorem ofString_beq (s t : String) : (ofString s == ofString t) = (s == t) := by
  rw [Bool.eq_iff_iff, beq_iff_eq, beq_iff_eq, ofString_inj]

theorem toString_ofString (s : String) : toString (ofString s) = s := by
  simp [toString, ofString, ofChars, Letter.char?, Function.comp_def]

theorem isEmpty_ofString {s : String} (h : s.toList ≠ []) : (ofString s).isEmpty = false := by
  simpa [isEmpty, ofString, ofChars] using h

/-! ## Pieces -/

section

variable {α : Type} [DecidableEq α]

theorem splitAt_eq_splitOn (sep : α) (l : List α) : splitAt sep l = l.splitOn sep := by
  induction l with
  | nil => simp [splitAt]
  | cons a l ih =>
      rw [splitAt, List.splitOn_cons_eq_if_modifyHead, ← ih]
      by_cases ha : a = sep
      · simp [ha]
      · cases hl : splitAt sep l with
        | nil => exact absurd (ih.symm.trans hl) (List.splitOn_ne_nil sep l)
        | cons piece pieces => simp [ha]

theorem splitAt_ne_nil (sep : α) (l : List α) : splitAt sep l ≠ [] :=
  splitAt_eq_splitOn sep l ▸ List.splitOn_ne_nil sep l

/-- With the separator between them the pieces are the whole. -/
theorem intercalate_splitAt (sep : α) (l : List α) : [sep].intercalate (splitAt sep l) = l := by
  rw [splitAt_eq_splitOn, List.intercalate_splitOn]

/-- Together the pieces are the text without its separators. -/
theorem flatten_splitAt (sep : α) (l : List α) :
    (splitAt sep l).flatten = l.filter (· ≠ sep) := by
  induction l with
  | nil => rfl
  | cons a l ih =>
      by_cases ha : a = sep
      · rw [splitAt, if_pos ha, List.flatten_cons, List.nil_append, ih,
          List.filter_cons_of_neg (by simpa using ha)]
      · rw [splitAt, if_neg ha, List.filter_cons_of_pos (by simpa using ha), ← ih]
        cases hl : splitAt sep l with
        | nil => exact absurd hl (splitAt_ne_nil sep l)
        | cons piece pieces => rfl

theorem splitAt_append (sep : α) (l m : List α) :
    splitAt sep (l ++ sep :: m) = splitAt sep l ++ splitAt sep m := by
  simp only [splitAt_eq_splitOn, List.splitOn_append_cons_self]

theorem splitAt_of_not_mem {sep : α} {l : List α} (h : sep ∉ l) : splitAt sep l = [l] := by
  rw [splitAt_eq_splitOn, List.splitOn_eq_singleton h]

theorem not_mem_of_mem_splitAt {sep : α} {l piece : List α} (h : piece ∈ splitAt sep l) :
    sep ∉ piece := by
  induction l generalizing piece with
  | nil =>
      obtain rfl := List.mem_singleton.1 h
      exact List.not_mem_nil
  | cons a l ih =>
      rw [splitAt] at h
      by_cases ha : a = sep
      · rw [if_pos ha] at h
        rcases List.mem_cons.1 h with rfl | h
        · exact List.not_mem_nil
        · exact ih h
      · rw [if_neg ha] at h
        cases hl : splitAt sep l with
        | nil =>
            rw [hl] at h
            obtain rfl := List.mem_singleton.1 h
            simpa using Ne.symm ha
        | cons first pieces =>
            rw [hl] at h ih
            rcases List.mem_cons.1 h with rfl | h
            · simpa [Ne.symm ha] using ih List.mem_cons_self
            · exact ih (List.mem_cons_of_mem _ h)

end

end DiagnosticCatalog.Text
