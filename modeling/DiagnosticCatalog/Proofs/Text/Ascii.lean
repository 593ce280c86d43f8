import DiagnosticCatalog.Proofs.Text.Lower
/-!
What becomes ASCII text in small letters. Apart from ASCII letters only the Kelvin sign has an ASCII
small letter, so a text whose small letters are an ASCII word is that word letter by letter, and
neither the dotted capital I nor a sigma can stand in it.
-/

namespace DiagnosticCatalog.Text

/-- In this form the characters of a word are gone through one by one, not all that there are. -/
theorem ascii_of_all {cs : List Char} (h : (cs.all fun c => decide (c.toNat < 0x80)) = true) :
    Ascii cs := fun c hc => of_decide_eq_true (List.all_eq_true.1 h c hc)

/-- The sign U+212A. -/
def kelvin : Char := Char.ofNat 0x212A

/-- The small letter of an ASCII letter, and `k` for the Kelvin sign. -/
def asciiLetter (c : Char) : Char := if c = kelvin then 'k' else c.toLower

/-- Apart from the span of the Kelvin sign, no span leads back to ASCII. -/
theorem lowerSpans_beyond : (lowerSpans.all fun s =>
    (Nat.beq s.first 0x212A && Nat.beq s.last 0x212A) || Nat.ble 0x80 s.image.1) = true := by
  decide +kernel

theorem ascii_of_toLower {c : Char} (h : c.toLower.toNat < 0x80) : c.toNat < 0x80 := by
  delta Char.toLower at h
  split at h
  · rename_i hcapital
    have hle : c.toNat ≤ 0x5A := hcapital.2
    omega
  · exact h

theorem asciiLetter_of_ne {c : Char} (h : c ≠ kelvin) : asciiLetter c = c.toLower := if_neg h

theorem ne_kelvin_of_ascii {c : Char} (h : c.toNat < 0x80) : c ≠ kelvin := by
  rintro rfl
  exact absurd h (by decide)

theorem lowerChar_kelvin : lowerChar kelvin = ['k'] := by decide +kernel

/-- Any other character beyond ASCII has a small letter beyond it. -/
theorem exists_beyond_of_ne_kelvin {c : Char} (h : ¬c.toNat < 0x80) (hkelvin : c ≠ kelvin) :
    ∃ d ∈ lowerChar c, ¬d.toNat < 0x80 := by
  by_cases hdotted : c.toNat = 0x130
  · rw [eq_ofNat hdotted]
    exact ⟨Char.ofNat 0x307, by decide +kernel, by decide⟩
  rw [lowerChar, if_neg h, if_neg (by simpa using hdotted), mapSpan]
  refine ⟨_, List.mem_singleton_self _, ?_⟩
  cases hfind : lowerSpans.find? (·.covers c.toNat) with
  | none => exact h
  | some s =>
      have hmem := List.mem_of_find?_eq_some hfind
      have hcovers : s.covers c.toNat = true := by simpa using List.find?_some hfind
      obtain ⟨hfirst, hlast, _⟩ := covers_eq_true_iff.1 hcovers
      have hbeyond := List.all_eq_true.1 lowerSpans_beyond s hmem
      simp only [Bool.or_eq_true, Bool.and_eq_true, Nat.beq_eq, Nat.ble_eq] at hbeyond
      rcases hbeyond with hown | himage
      · have hcode : c.toNat = 0x212A := by omega
        exact absurd (eq_ofNat hcode) hkelvin
      · have hmapped := (toNat_mapped hmem hcovers rfl).2.1
        exact Nat.not_lt.2 (himage.trans hmapped)

/-- The first small letter of a text is that of its first character, or there is one beyond ASCII. -/
theorem lowerFrom_cons_cases (before cs : List Char) (c : Char) :
    lowerFrom before (c :: cs) = asciiLetter c :: lowerFrom (c :: before) cs ∨
      ¬(asciiLetter c).toNat < 0x80 ∧ ∃ d ∈ lowerFrom before (c :: cs), ¬d.toNat < 0x80 := by
  by_cases hsigma : (c.toNat == 0x3A3) = true
  · obtain rfl := eq_ofNat (beq_iff_eq.1 hsigma)
    refine .inr ⟨by decide, ?_⟩
    rw [lowerFrom, if_pos hsigma]
    refine ⟨_, List.mem_append_left _ (List.mem_singleton_self _), ?_⟩
    split <;> decide
  rw [lowerFrom, if_neg hsigma]
  by_cases hascii : c.toNat < 0x80
  · rw [lowerChar_ascii hascii, asciiLetter_of_ne (ne_kelvin_of_ascii hascii)]
    exact .inl rfl
  by_cases hkelvin : c = kelvin
  · rw [hkelvin, lowerChar_kelvin]
    exact .inl rfl
  · obtain ⟨d, hd, hbeyond⟩ := exists_beyond_of_ne_kelvin hascii hkelvin
    refine .inr ⟨?_, d, List.mem_append_left _ hd, hbeyond⟩
    rw [asciiLetter_of_ne hkelvin]
    exact mt ascii_of_toLower hascii

theorem lowerFrom_eq_iff {w : List Char} (hw : Ascii w) (before cs : List Char) :
    lowerFrom before cs = w ↔ cs.map asciiLetter = w := by
  induction cs generalizing before w with
  | nil => rfl
  | cons c cs ih =>
      rcases lowerFrom_cons_cases before cs c with hcons | ⟨hbeyond, d, hd, hd'⟩
      · rw [hcons, List.map_cons]
        cases w with
        | nil => exact iff_of_false (List.cons_ne_nil _ _) (List.cons_ne_nil _ _)
        | cons a w =>
            rw [List.cons.injEq, List.cons.injEq, ih (List.forall_mem_cons.1 hw).2]
      · refine iff_of_false ?_ ?_
        · rintro rfl
          exact hd' (hw d hd)
        · rintro rfl
          exact hbeyond (hw _ List.mem_cons_self)

/-- A change of letters that makes no ASCII of others may come before or after. -/
theorem map_lowerChars_eq_iff {f : Char → Char} (hf : ∀ c, (f c).toNat < 0x80 → c.toNat < 0x80)
    {w : List Char} (hw : Ascii w) (cs : List Char) :
    (lowerChars cs).map f = w ↔ cs.map (f ∘ asciiLetter) = w := by
  have hplain : ∀ {v : List Char}, v.map f = w → Ascii v := by
    rintro v rfl c hc
    exact hf c (hw _ (List.mem_map_of_mem hc))
  rw [← List.map_map]
  constructor
  · intro h
    have hletters := (lowerFrom_eq_iff (hplain h) [] cs).1 rfl
    rwa [hletters]
  · intro h
    have hletters : lowerChars cs = cs.map asciiLetter := (lowerFrom_eq_iff (hplain h) [] cs).2 rfl
    rwa [hletters]

/-- Where the word has no `k`, no Kelvin sign can stand for it. -/
theorem map_asciiLetter_eq_iff {w : List Char} (hw : Ascii w) (hk : 'k' ∉ w) (cs : List Char) :
    cs.map asciiLetter = w ↔ cs.map Char.toLower = w := by
  have hsame : kelvin ∉ cs → cs.map asciiLetter = cs.map Char.toLower := fun hkelvin =>
    List.map_congr_left fun c hc => asciiLetter_of_ne fun h => hkelvin (h ▸ hc)
  constructor
  · rintro rfl
    exact (hsame fun hkelvin => hk (List.mem_map_of_mem hkelvin)).symm
  · rintro rfl
    refine hsame fun hkelvin => ?_
    exact absurd (hw _ (List.mem_map_of_mem hkelvin)) (by decide)

end DiagnosticCatalog.Text
