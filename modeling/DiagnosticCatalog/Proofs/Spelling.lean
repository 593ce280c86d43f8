import DiagnosticCatalog.Category
import DiagnosticCatalog.Proofs.Settings.TokenOrder
import DiagnosticCatalog.Proofs.Table
import DiagnosticCatalog.Proofs.Text.Ascii
/-!
The words for severities and the keys of categories. Each is read in its own spellings and in no
others: outer blanks and the case of ASCII letters do not matter, and in a key a hyphen stands for an
underscore and the Kelvin sign for a `k`.
-/

namespace DiagnosticCatalog

open Text

/-- Without its outer blanks the text is the word, once its characters are replaced. -/
def SpeltBy (f : Char → Char) (w : String) (t : Text) : Prop :=
  ∃ cs, t.trim = ofChars cs ∧ cs.map f = w.toList

/-- What a character stands for in the key of a category. -/
def keyLetter (c : Char) : Char :=
  if c = '-' then '_' else if c = kelvin then 'k' else c.toLower

theorem speltBy_iff {f : Char → Char} {w : String} {t : Text} :
    SpeltBy f w t ↔ ∃ s, t.string? = some s ∧ (strip s.toList).map f = w.toList := by
  simp only [SpeltBy, ← chars?_eq_some_iff, chars?_trim, Option.map_eq_some_iff, string?]
  constructor
  · rintro ⟨_, ⟨ds, hds, rfl⟩, hw⟩
    exact ⟨_, ⟨ds, hds, rfl⟩, by rwa [String.toList_ofList]⟩
  · rintro ⟨_, ⟨ds, hds, rfl⟩, hw⟩
    rw [String.toList_ofList] at hw
    exact ⟨_, ⟨ds, hds, rfl⟩, hw⟩

/-- A word of ASCII letters is spelt with nothing else. -/
theorem SpeltBy.ascii {w : String} {t : Text} (h : SpeltBy Char.toLower w t) (hw : Ascii w.toList) :
    ∀ l ∈ t.trim.letters, l.code < 0x80 := by
  obtain ⟨cs, hcs, hmap⟩ := h
  rw [hcs]
  intro l hl
  obtain ⟨c, hc, rfl⟩ := List.mem_map.1 hl
  have hlower : c.toLower ∈ w.toList := hmap ▸ List.mem_map_of_mem hc
  exact ascii_of_toLower (hw _ hlower)

/-! ## Severities -/

theorem Severity.plain_of_mem_words : ∀ s ∈ Severity.all, ∀ w ∈ inheritWord :: s.words,
    Ascii w.toList ∧ 'k' ∉ w.toList := by
  have hall : ∀ s ∈ Severity.all, ∀ w ∈ inheritWord :: s.words,
      (w.toList.all fun c => decide (c.toNat < 0x80)) = true ∧ 'k' ∉ w.toList := by decide
  exact fun s hs w hw => (hall s hs w hw).imp_left ascii_of_all

/-- The folded word is spelt by the case of ASCII letters. -/
theorem foldedWord_eq_iff {w : String} (hw : Ascii w.toList) (hk : 'k' ∉ w.toList) (s : String) :
    foldedWord s = w ↔ (strip s.toList).map Char.toLower = w.toList := by
  rw [foldedWord, ← String.toList_inj, String.toList_ofList, lowerChars, lowerFrom_eq_iff hw,
    map_asciiLetter_eq_iff hw hk]

theorem Level.ofWord?_eq_inherit_iff {w : String} :
    Level.ofWord? w = some .inherit ↔ w = inheritWord := by
  rw [Level.ofWord?]
  split
  · simp only [*]
  · simp only [*, Option.map_eq_some_iff, reduceCtorEq, and_false, exists_false]

theorem Level.ofWord?_eq_explicit_iff {w : String} {s : Severity} :
    Level.ofWord? w = some (.explicit s) ↔ w = s.word := by
  constructor
  · intro h
    rw [Level.ofWord?] at h
    split at h
    · cases h
    · obtain ⟨t, ht, heq⟩ := Option.map_eq_some_iff.1 h
      obtain rfl := Level.explicit.inj heq
      have hword : t.word = w := by simpa using List.find?_some ht
      exact hword.symm
  · rintro rfl
    cases s <;> decide

/-- A word with its alias replaced. -/
def unaliased (w : String) : String := (severityAliases.lookup w).getD w

theorem unaliased_eq (w : String) :
    unaliased w = if w = "hide" then "hidden" else if w = "warn" then "warning" else w := by
  rw [unaliased, severityAliases, Table.lookup_cons, Table.lookup_cons, List.lookup_nil]
  split
  · rfl
  · split <;> rfl

theorem unaliased_eq_word_iff {w : String} {s : Severity} : unaliased w = s.word ↔ w ∈ s.words := by
  rw [unaliased_eq]
  split
  · subst w
    cases s <;> decide
  · split
    · subst w
      cases s <;> decide
    · cases s <;> simp [Severity.word, Severity.words, *]

theorem unaliased_eq_inheritWord_iff {w : String} : unaliased w = inheritWord ↔ w = inheritWord := by
  rw [unaliased_eq]
  split
  · subst w
    decide
  · split
    · subst w
      decide
    · rfl

/-- The level that a text asks for goes by the one word that the text spells. -/
theorem levelOfText?_eq_some_iff {t : Text} {l : Level} {words : List String}
    (hwords : ∀ w ∈ words, Ascii w.toList ∧ 'k' ∉ w.toList)
    (hlevel : ∀ w, Level.ofWord? (unaliased w) = some l ↔ w ∈ words) :
    levelOfText? (some t) = some l ↔ ∃ w ∈ words, SpeltBy Char.toLower w t := by
  have hfolded : levelOfText? (some t) = some l ↔
      ∃ s, t.string? = some s ∧ foldedWord s ∈ words := by
    rw [levelOfText?, Option.getD_some, Option.bind_eq_some_iff]
    exact exists_congr fun s => and_congr_right fun _ => hlevel (foldedWord s)
  rw [hfolded]
  constructor
  · rintro ⟨s, hs, hmem⟩
    obtain ⟨hascii, hk⟩ := hwords _ hmem
    exact ⟨_, hmem, speltBy_iff.2 ⟨s, hs, (foldedWord_eq_iff hascii hk s).1 rfl⟩⟩
  · rintro ⟨w, hw, hspelt⟩
    obtain ⟨s, hs, hmap⟩ := speltBy_iff.1 hspelt
    obtain ⟨hascii, hk⟩ := hwords w hw
    exact ⟨s, hs, (foldedWord_eq_iff hascii hk s).2 hmap ▸ hw⟩

theorem levelOfText?_eq_explicit_iff {t : Text} {s : Severity} :
    levelOfText? (some t) = some (.explicit s) ↔ ∃ w ∈ s.words, SpeltBy Char.toLower w t := by
  refine levelOfText?_eq_some_iff (fun w hw => ?_) fun w => ?_
  · exact Severity.plain_of_mem_words s (Severity.mem_all s) w (List.mem_cons_of_mem _ hw)
  · rw [Level.ofWord?_eq_explicit_iff, unaliased_eq_word_iff]

theorem levelOfText?_eq_inherit_iff {t : Text} :
    levelOfText? (some t) = some .inherit ↔ SpeltBy Char.toLower inheritWord t := by
  have hplain := Severity.plain_of_mem_words .hidden (Severity.mem_all _) inheritWord
    List.mem_cons_self
  have hlevel : ∀ w, Level.ofWord? (unaliased w) = some .inherit ↔ w ∈ [inheritWord] := fun w => by
    rw [Level.ofWord?_eq_inherit_iff, unaliased_eq_inheritWord_iff, List.mem_singleton]
  rw [levelOfText?_eq_some_iff (List.forall_mem_singleton.2 hplain) hlevel]
  simp

theorem Severity.parse_eq_ok_iff {t : Text} {s : Severity} :
    Severity.parse t = .ok s ↔ levelOfText? (some t) = some (.explicit s) := by
  rw [Severity.parse, Severity.read]
  split <;> simp [*]

theorem Severity.parse_eq_inherits_iff {t : Text} :
    Severity.parse t = .error .inherits ↔ levelOfText? (some t) = some .inherit := by
  rw [Severity.parse, Severity.read]
  split <;> simp [*]

theorem Severity.parse_eq_unknown_iff {t : Text} :
    Severity.parse t = .error (.unknown (some t)) ↔ levelOfText? (some t) = none := by
  rw [Severity.parse, Severity.read]
  split <;> simp [*]

theorem levelOfText?_eq_none_iff {t : Text} : levelOfText? (some t) = none ↔
    (∀ s : Severity, ∀ w ∈ s.words, ¬SpeltBy Char.toLower w t) ∧
      ¬SpeltBy Char.toLower inheritWord t := by
  rw [← levelOfText?_eq_inherit_iff, Option.eq_none_iff_forall_ne_some]
  constructor
  · intro h
    exact ⟨fun s w hw hspelt => h _ (levelOfText?_eq_explicit_iff.2 ⟨w, hw, hspelt⟩), h .inherit⟩
  · rintro ⟨hwords, hinherit⟩ l
    cases l with
    | inherit => exact hinherit
    | explicit s =>
        intro hlevel
        obtain ⟨w, hw, hspelt⟩ := levelOfText?_eq_explicit_iff.1 hlevel
        exact hwords s w hw hspelt

/-- No word for a level has a character beyond ASCII. -/
theorem levelOfText?_of_beyond {t : Text} (h : ∃ l ∈ t.trim.letters, 0x80 ≤ l.code) :
    levelOfText? (some t) = none := by
  obtain ⟨l, hl, hbeyond⟩ := h
  have hnot : ∀ s : Severity, ∀ w ∈ inheritWord :: s.words, ¬SpeltBy Char.toLower w t := by
    intro s w hw hspelt
    have hascii := (Severity.plain_of_mem_words s (Severity.mem_all s) w hw).1
    exact absurd (hspelt.ascii hascii l hl) (Nat.not_lt.2 hbeyond)
  refine levelOfText?_eq_none_iff.2 ⟨fun s w hw => hnot s w (List.mem_cons_of_mem _ hw), ?_⟩
  exact hnot .hidden inheritWord List.mem_cons_self

/-! ## Categories -/

theorem keyLetter_eq (c : Char) : keyLetter c = hyphenToUnderscore (asciiLetter c) := by
  by_cases hhyphen : c = '-'
  · subst hhyphen
    decide
  by_cases hkelvin : c = kelvin
  · subst hkelvin
    decide
  rw [keyLetter, if_neg hhyphen, if_neg hkelvin, asciiLetter_of_ne hkelvin, hyphenToUnderscore,
    if_neg]
  intro hlower
  have hascii : c.toNat < 0x80 := ascii_of_toLower (hlower ▸ by decide)
  exact hhyphen (forall_ascii (P := fun c => c.toLower = '-' → c = '-') (by decide) hascii hlower)

theorem ascii_of_hyphenToUnderscore {c : Char} (h : (hyphenToUnderscore c).toNat < 0x80) :
    c.toNat < 0x80 := by
  rw [hyphenToUnderscore] at h
  split at h
  · subst c
    decide
  · exact h

theorem Category.ofKey?_eq_some_iff {k : String} {c : Category} :
    Category.ofKey? k = some c ↔ k = c.key := by
  constructor
  · intro h
    have hkey : c.key = k := by simpa using List.find?_some h
    exact hkey.symm
  · rintro rfl
    cases c <;> decide

theorem Category.ascii_key (c : Category) : Ascii c.key.toList := by
  refine ascii_of_all ?_
  cases c <;> decide

theorem categoryWord_eq_key_iff (s : String) (c : Category) :
    categoryWord s = c.key ↔ (strip s.toList).map keyLetter = c.key.toList := by
  rw [categoryWord, foldedWord, ← String.toList_inj, String.toList_map, String.toList_ofList,
    map_lowerChars_eq_iff (fun _ => ascii_of_hyphenToUnderscore) c.ascii_key, funext keyLetter_eq]
  rfl

theorem Category.read_eq_ok_iff {t : Text} {c : Category} :
    Category.read (some t) = .ok c ↔ SpeltBy keyLetter c.key t := by
  have hkey : (t.string?.bind fun s => Category.ofKey? (categoryWord s)) = some c ↔
      SpeltBy keyLetter c.key t := by
    rw [Option.bind_eq_some_iff, speltBy_iff]
    exact exists_congr fun s => and_congr_right fun _ =>
      Category.ofKey?_eq_some_iff.trans (categoryWord_eq_key_iff s c)
  rw [← hkey, Category.read, Option.getD_some]
  split
  · rename_i d hd
    rw [hd, Except.ok.injEq, Option.some.injEq]
  · rename_i hnone
    rw [hnone]
    exact iff_of_false (fun h => by cases h) (fun h => by cases h)

theorem Category.read_eq_error_iff {t : Text} {e : UnknownCategory} :
    Category.read (some t) = .error e ↔ e = ⟨some t⟩ ∧ ∀ c, Category.read (some t) ≠ .ok c := by
  rw [Category.read]
  split <;> simp [eq_comm]

/-- A severity is read from just the spellings of its name and its alias, up to the case of ASCII
letters, and the mark of inheritance is turned down for just those of its word; every other text, any
with a character beyond ASCII between its outer blanks among them, is an unknown severity. A category
is read from just the spellings of its key, in which the Kelvin sign counts as `k` and a hyphen as an
underscore; every other text is an unknown category. -/
theorem parse_and_read_spelt (t : Text) :
    (∀ s, Severity.parse t = .ok s ↔ ∃ w ∈ s.words, SpeltBy Char.toLower w t) ∧
    (Severity.parse t = .error .inherits ↔ SpeltBy Char.toLower "inherit" t) ∧
    (Severity.parse t = .error (.unknown (some t)) ↔
      (∀ s : Severity, ∀ w ∈ s.words, ¬SpeltBy Char.toLower w t) ∧
        ¬SpeltBy Char.toLower "inherit" t) ∧
    ((∃ l ∈ t.trim.letters, 0x80 ≤ l.code) →
      Severity.parse t = .error (.unknown (some t))) ∧
    (∀ c, Category.read (some t) = .ok c ↔ SpeltBy keyLetter c.key t) ∧
    (Category.read (some t) = .error ⟨some t⟩ ↔ ∀ c : Category, ¬SpeltBy keyLetter c.key t) := by
  refine ⟨fun s => ?ok, ?inherits, ?unknown, fun h => ?beyond, fun c => ?category, ?none⟩
  case ok => rw [Severity.parse_eq_ok_iff, levelOfText?_eq_explicit_iff]
  case inherits => exact Severity.parse_eq_inherits_iff.trans levelOfText?_eq_inherit_iff
  case unknown => exact Severity.parse_eq_unknown_iff.trans levelOfText?_eq_none_iff
  case beyond => exact Severity.parse_eq_unknown_iff.2 (levelOfText?_of_beyond h)
  case category => exact Category.read_eq_ok_iff
  case none =>
    rw [Category.read_eq_error_iff, and_iff_right rfl]
    exact forall_congr' fun c => not_congr Category.read_eq_ok_iff

/-- The Kelvin sign for a small letter, and blanks that are no ASCII. -/
example : (Category.read (some "\u2003UN\u212aNOWN\u00a0")).toOption = some .unknown := by
  decide +kernel

end DiagnosticCatalog
