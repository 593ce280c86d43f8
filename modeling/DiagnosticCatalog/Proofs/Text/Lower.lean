import DiagnosticCatalog.Proofs.Decimal.Numeral
import DiagnosticCatalog.Proofs.Text
import DiagnosticCatalog.Proofs.Text.Blank
import Mathlib.Data.List.Forall2
/-!
Small letters for all of Unicode. What a character is mapped to has no capitals left in it, is blank
or a digit only if the character itself is, and stands alone where it is. So text can be stripped
before or after; only a capital sigma looks at its neighbours, and blanks are nothing to it.
-/

namespace DiagnosticCatalog.Text

/-! ## The tables -/

/-- Stretches of codes, by first and last, that have nothing in common. -/
def areApart (a b : Nat × Nat) : Bool := Nat.blt a.2 b.1 || Nat.blt b.2 a.1

def blankRanges : List (Nat × Nat) := [
  (0x09, 0x0D), (0x1C, 0x20), (0x85, 0x85), (0xA0, 0xA0), (0x1680, 0x1680), (0x2000, 0x200A),
  (0x2028, 0x2029), (0x202F, 0x202F), (0x205F, 0x205F), (0x3000, 0x3000)]

theorem inRanges_eq_true_iff {ranges : List (Nat × Nat)} {c : Char} :
    inRanges ranges c = true ↔ ∃ r ∈ ranges, r.1 ≤ c.toNat ∧ c.toNat ≤ r.2 := by
  simp only [inRanges, List.any_eq_true, Bool.and_eq_true, decide_eq_true_eq]

theorem isBlank_eq_inRanges (c : Char) : isBlank c = inRanges blankRanges c := by
  simp only [isBlank, inRanges, blankRanges, List.any_cons, List.any_nil]
  grind

/-- The codes that a span maps to run from the first to the last of these. -/
def Span.image (s : Span) : Nat × Nat := ((s.first + s.shift).toNat, (s.last + s.shift).toNat)

/-- The second span covers nothing that the first one maps to. Where it covers every other code, that
may fall into its gaps. -/
def Span.avoids (s t : Span) : Bool :=
  areApart s.image (t.first, t.last) ||
    (Nat.beq s.step 2 || Nat.beq s.first s.last) && Nat.beq t.step 2 &&
      Nat.beq ((s.image.1 + t.first) % 2) 1

/-- Codes that are mapped by a rule of their own. -/
def specialRanges : List (Nat × Nat) := [(0x00, 0x60), (0x7B, 0x7F), (0x130, 0x130), (0x3A3, 0x3A3)]

/-- What the span maps to are characters, with no blank, no digit and no capital among them. -/
def Span.isLowering (s : Span) : Bool :=
  decide (0 ≤ s.first + s.shift) && (Nat.blt s.image.2 0xD800 ||
      Nat.blt 0xDFFF s.image.1 && Nat.blt s.image.2 0x110000) &&
    blankRanges.all (areApart (s.first, s.last)) && blankRanges.all (areApart s.image) &&
    specialRanges.all (areApart s.image) && lowerSpans.all s.avoids

set_option maxRecDepth 20000 in
theorem isLowering_lowerSpans : lowerSpans.all Span.isLowering = true := by decide +kernel

set_option maxRecDepth 20000 in
theorem caseRanges_apart : ((casedRanges ++ caseIgnorableRanges).all fun r =>
    blankRanges.all (areApart r)) = true := by decide +kernel

theorem covers_eq_true_iff {s : Span} {n : Nat} :
    s.covers n = true ↔ s.first ≤ n ∧ n ≤ s.last ∧ (n - s.first) % s.step = 0 := by
  simp only [Span.covers, Bool.and_eq_true, decide_eq_true_eq, beq_iff_eq, and_assoc]

theorem areApart_iff {a b : Nat × Nat} : areApart a b = true ↔ a.2 < b.1 ∨ b.2 < a.1 := by
  simp only [areApart, Bool.or_eq_true, Nat.blt_eq]

theorem inRanges_of_areApart {ranges : List (Nat × Nat)} {a : Nat × Nat}
    (h : ranges.all (areApart a) = true) {c : Char} (hc : a.1 ≤ c.toNat ∧ c.toNat ≤ a.2) :
    inRanges ranges c = false := by
  rw [Bool.eq_false_iff, Ne, inRanges_eq_true_iff]
  rintro ⟨r, hr, hcr⟩
  have hapart := areApart_iff.1 (List.all_eq_true.1 h r hr)
  omega

/-- What a table of ranges away from the blanks has in it is not blank. -/
theorem not_isBlank_of_inRanges {ranges : List (Nat × Nat)}
    (h : (ranges.all fun r => blankRanges.all (areApart r)) = true) {c : Char}
    (hc : inRanges ranges c = true) : isBlank c = false := by
  obtain ⟨r, hr, hcr⟩ := inRanges_eq_true_iff.1 hc
  rw [isBlank_eq_inRanges]
  exact inRanges_of_areApart (List.all_eq_true.1 h r hr) hcr

/-! ## One character -/

theorem toNat_ofNat {n : Nat} (h : n.isValidChar) : (Char.ofNat n).toNat = n := by
  rw [Char.ofNat, dif_pos h]
  rfl

theorem isDigit_iff {c : Char} : Decimal.isDigit c = true ↔ 0x30 ≤ c.toNat ∧ c.toNat ≤ 0x39 := by
  simp only [Decimal.isDigit, Bool.and_eq_true, decide_eq_true_eq]

/-- The character is what its small letters are. -/
structure Small (c : Char) : Prop where
  own : lowerChar c = [c]
  not_sigma : c.toNat ≠ 0x3A3

/-- Small letters of a character: there are some, blanks stay blanks, and digits digits. -/
structure Lowered (c : Char) (ds : List Char) : Prop where
  ne_nil : ds ≠ []
  small : ∀ d ∈ ds, Small d
  blank : ∀ d ∈ ds, isBlank d = isBlank c
  digit : ∀ d ∈ ds, Decimal.isDigit d = Decimal.isDigit c

theorem lowered_singleton {c d : Char} (hd : Small d) (hblank : isBlank d = isBlank c)
    (hdigit : Decimal.isDigit d = Decimal.isDigit c) : Lowered c [d] := by
  refine ⟨List.cons_ne_nil _ _, ?_, ?_, ?_⟩ <;> rwa [List.forall_mem_singleton]

theorem lowerChar_ascii {c : Char} (h : c.toNat < 0x80) : lowerChar c = [c.toLower] := if_pos h

theorem small_ascii {c : Char} (h : c.toNat < 0x80) : Small c.toLower := by
  have hlow := toLower_ascii h
  constructor
  · rw [lowerChar_ascii hlow, toLower_toLower h]
  · omega

theorem lowered_ascii {c : Char} (h : c.toNat < 0x80) : Lowered c (lowerChar c) := by
  rw [lowerChar_ascii h]
  refine lowered_singleton (small_ascii h) ?_ ?_
  · exact forall_ascii (P := fun c => isBlank c.toLower = isBlank c) (by decide) h
  · exact forall_ascii (P := fun c => Decimal.isDigit c.toLower = Decimal.isDigit c) (by decide) h

section

variable {s : Span} (hs : s ∈ lowerSpans) {c d : Char} (hc : s.covers c.toNat = true)
  (hd : Char.ofNat (c.toNat + s.shift).toNat = d)

include hs

theorem not_isBlank_of_covers (hc : s.covers c.toNat = true) : isBlank c = false := by
  obtain ⟨hfirst, hlast, _⟩ := covers_eq_true_iff.1 hc
  have hlow := List.all_eq_true.1 isLowering_lowerSpans s hs
  simp only [Span.isLowering, Bool.and_eq_true] at hlow
  rw [isBlank_eq_inRanges]
  exact inRanges_of_areApart hlow.1.1.1.2 ⟨hfirst, hlast⟩

include hc hd

theorem toNat_mapped :
    (d.toNat : Int) = c.toNat + s.shift ∧ s.image.1 ≤ d.toNat ∧ d.toNat ≤ s.image.2 := by
  obtain ⟨hfirst, hlast, _⟩ := covers_eq_true_iff.1 hc
  have hlow := List.all_eq_true.1 isLowering_lowerSpans s hs
  simp only [Span.isLowering, Bool.and_eq_true, Bool.or_eq_true, Nat.blt_eq, decide_eq_true_eq,
    Span.image] at hlow
  have hvalid : (c.toNat + s.shift).toNat.isValidChar := by
    simp only [Nat.isValidChar]
    omega
  rw [← hd, toNat_ofNat hvalid]
  simp only [Span.image]
  omega

theorem not_isBlank_mapped : isBlank d = false := by
  have hlow := List.all_eq_true.1 isLowering_lowerSpans s hs
  simp only [Span.isLowering, Bool.and_eq_true] at hlow
  rw [isBlank_eq_inRanges]
  exact inRanges_of_areApart hlow.1.1.2 (toNat_mapped hs hc hd).2

theorem not_inRanges_mapped : inRanges specialRanges d = false := by
  have hlow := List.all_eq_true.1 isLowering_lowerSpans s hs
  simp only [Span.isLowering, Bool.and_eq_true] at hlow
  exact inRanges_of_areApart hlow.1.2 (toNat_mapped hs hc hd).2

theorem not_covers_mapped {t : Span} (ht : t ∈ lowerSpans) : t.covers d.toNat = false := by
  obtain ⟨hmapped, himage⟩ := toNat_mapped hs hc hd
  obtain ⟨hfirst, hlast, hstep⟩ := covers_eq_true_iff.1 hc
  have hlow := List.all_eq_true.1 isLowering_lowerSpans s hs
  simp only [Span.isLowering, Bool.and_eq_true, decide_eq_true_eq] at hlow
  have havoids := List.all_eq_true.1 hlow.2 t ht
  simp only [Span.avoids, Bool.or_eq_true, Bool.and_eq_true, areApart_iff, Nat.beq_eq] at havoids
  rw [Bool.eq_false_iff, Ne, covers_eq_true_iff]
  rintro ⟨htfirst, htlast, htstep⟩
  rcases havoids with hapart | ⟨⟨hevery, hgaps⟩, hparity⟩
  · omega
  · -- What is mapped lies an even way behind the start of the image, and so an odd way behind that
    -- of the other span.
    have heven : (c.toNat - s.first) % 2 = 0 := by
      rcases hevery with hevery | hevery
      · rwa [hevery] at hstep
      · have hzero : c.toNat - s.first = 0 := by omega
        rw [hzero]
    rw [hgaps] at htstep
    simp only [Span.image] at hparity himage
    omega

end

theorem lowerChar_of_not_covers {c : Char} (hc : ¬c.toNat < 0x80) (hspecial : c.toNat ≠ 0x130)
    (h : ∀ s ∈ lowerSpans, s.covers c.toNat = false) : lowerChar c = [c] := by
  have hnone : lowerSpans.find? (·.covers c.toNat) = none :=
    List.find?_eq_none.2 fun s hs => Bool.not_eq_true _ ▸ h s hs
  rw [lowerChar, if_neg hc, if_neg (by simpa using hspecial), mapSpan, hnone]

theorem small_mapped {s : Span} (hs : s ∈ lowerSpans) {c d : Char} (hc : s.covers c.toNat = true)
    (hd : Char.ofNat (c.toNat + s.shift).toNat = d) : Small d := by
  have hspecial := not_inRanges_mapped hs hc hd
  simp only [Bool.eq_false_iff, Ne, inRanges_eq_true_iff, specialRanges, List.exists_mem_cons_iff,
    List.not_mem_nil, false_and, exists_false, or_false, not_or] at hspecial
  refine ⟨?_, by omega⟩
  by_cases hsmall : d.toNat < 0x80
  · rw [lowerChar_ascii hsmall]
    congr 1
    refine forall_ascii (P := fun d => 0x61 ≤ d.toNat → d.toLower = d) (by decide) hsmall ?_
    omega
  · exact lowerChar_of_not_covers hsmall (by omega) fun t ht => not_covers_mapped hs hc hd ht

theorem not_isDigit_of_not_ascii {c : Char} (h : ¬c.toNat < 0x80) : Decimal.isDigit c = false := by
  rw [Bool.eq_false_iff, Ne, isDigit_iff]
  omega

theorem lowered_mapped {s : Span} (hs : s ∈ lowerSpans) {c d : Char}
    (hc : s.covers c.toNat = true) (hd : Char.ofNat (c.toNat + s.shift).toNat = d)
    (hlarge : ¬c.toNat < 0x80) : Lowered c [d] := by
  refine lowered_singleton (small_mapped hs hc hd) ?_ ?_
  · rw [not_isBlank_mapped hs hc hd, not_isBlank_of_covers hs hc]
  · have hspecial := not_inRanges_mapped hs hc hd
    rw [not_isDigit_of_not_ascii hlarge, Bool.eq_false_iff, Ne, isDigit_iff]
    intro hdigit
    rw [Bool.eq_false_iff] at hspecial
    exact hspecial (inRanges_eq_true_iff.2 ⟨(0x00, 0x60), List.mem_cons_self, by omega, by omega⟩)

theorem eq_ofNat {c : Char} {n : Nat} (h : c.toNat = n) : c = Char.ofNat n := by
  rw [← h, Char.ofNat_toNat]

theorem lowered_dotted : Lowered (Char.ofNat 0x130) ['i', Char.ofNat 0x307] := by
  refine ⟨List.cons_ne_nil _ _, ?small, ?blank, ?digit⟩ <;>
    simp only [List.forall_mem_cons, List.not_mem_nil, false_imp_iff, implies_true, and_true]
  case small => exact ⟨⟨by decide +kernel, by decide⟩, ⟨by decide +kernel, by decide⟩⟩
  case blank => exact ⟨by decide, by decide⟩
  case digit => exact ⟨by decide, by decide⟩

theorem lowered_lowerChar (c : Char) : Lowered c (lowerChar c) := by
  by_cases hascii : c.toNat < 0x80
  · exact lowered_ascii hascii
  by_cases hdotted : c.toNat = 0x130
  · rw [eq_ofNat hdotted]
    exact lowered_dotted
  rw [lowerChar, if_neg hascii, if_neg (by simpa using hdotted), mapSpan]
  cases hfind : lowerSpans.find? (·.covers c.toNat) with
  | some s =>
      have hcovers : s.covers c.toNat = true := by simpa using List.find?_some hfind
      exact lowered_mapped (List.mem_of_find?_eq_some hfind) hcovers rfl hascii
  | none =>
      have hcovers : ∀ s ∈ lowerSpans, s.covers c.toNat = false := fun s hs =>
        Bool.eq_false_iff.2 (List.find?_eq_none.1 hfind s hs)
      refine lowered_singleton ⟨lowerChar_of_not_covers hascii hdotted hcovers, ?_⟩ rfl rfl
      intro hsigma
      rw [hsigma] at hfind
      revert hfind
      decide +kernel

/-- Both small forms of a sigma. -/
theorem lowered_sigma : Lowered (Char.ofNat 0x3A3) [Char.ofNat 0x3C2] ∧
    Lowered (Char.ofNat 0x3A3) [Char.ofNat 0x3C3] :=
  ⟨lowered_singleton ⟨by decide +kernel, by decide⟩ (by decide) (by decide),
    lowered_singleton ⟨by decide +kernel, by decide⟩ (by decide) (by decide)⟩

/-- A blank or a digit has no other small letter. -/
theorem lowerChar_of_isBlank {c : Char} (h : isBlank c = true) : lowerChar c = [c] := by
  by_cases hascii : c.toNat < 0x80
  · rw [lowerChar_ascii hascii]
    congr 1
    exact forall_ascii (P := fun c => isBlank c = true → c.toLower = c) (by decide) hascii h
  · refine lowerChar_of_not_covers hascii ?_ fun s hs => ?_
    · intro hdotted
      rw [eq_ofNat hdotted] at h
      exact absurd h (by decide)
    · by_contra hcovers
      cases h.symm.trans (not_isBlank_of_covers hs (Bool.not_eq_false _ ▸ hcovers))

/-! ## The context of a sigma -/

theorem casedAhead_cons (c : Char) (cs : List Char) :
    casedAhead (c :: cs) = if isCaseIgnorable c then casedAhead cs else isCased c := by
  by_cases hc : isCaseIgnorable c = true
  · rw [if_pos hc, casedAhead, List.dropWhile_cons_of_pos hc, casedAhead]
  · rw [if_neg hc, casedAhead, List.dropWhile_cons_of_neg hc]

/-- Words part at the character: it has no case and is not skipped. -/
structure Parts (c : Char) : Prop where
  cased : isCased c = false
  ignorable : isCaseIgnorable c = false

theorem parts_of_isBlank {c : Char} (h : isBlank c = true) : Parts c := by
  have hranges : ∀ ranges, (ranges.all fun r => blankRanges.all (areApart r)) = true →
      inRanges ranges c = false := by
    intro ranges hall
    by_contra hc
    cases h.symm.trans (not_isBlank_of_inRanges hall (Bool.not_eq_false _ ▸ hc))
  have hboth := caseRanges_apart
  rw [List.all_append, Bool.and_eq_true] at hboth
  exact ⟨hranges _ hboth.1, hranges _ hboth.2⟩

theorem Parts.casedAhead {c : Char} (h : Parts c) (cs : List Char) :
    casedAhead (c :: cs) = false := by
  rw [casedAhead_cons, h.ignorable, h.cased]
  rfl

theorem Parts.casedAhead_append {c : Char} (h : Parts c) (cs ds : List Char) :
    Text.casedAhead (cs ++ c :: ds) = Text.casedAhead cs := by
  induction cs with
  | nil => exact h.casedAhead ds
  | cons b cs ih => rw [List.cons_append, casedAhead_cons, casedAhead_cons, ih]

theorem Parts.not_sigma {c : Char} (h : Parts c) : ¬(c.toNat == 0x3A3) = true := by
  intro hsigma
  have hcased := h.cased
  rw [eq_ofNat (beq_iff_eq.1 hsigma)] at hcased
  revert hcased
  decide +kernel

theorem lowerFrom_congr {before before' : List Char} (h : casedAhead before = casedAhead before')
    (cs : List Char) : lowerFrom before cs = lowerFrom before' cs := by
  induction cs generalizing before before' with
  | nil => rfl
  | cons c cs ih =>
      have hcons : casedAhead (c :: before) = casedAhead (c :: before') := by
        rw [casedAhead_cons, casedAhead_cons, h]
      simp only [lowerFrom, h, ih hcons]

/-- On both sides of the character the small letters are those of the sides alone. -/
theorem Parts.lowerFrom_append {c : Char} (h : Parts c) (before cs ds : List Char) :
    lowerFrom before (cs ++ c :: ds) = lowerFrom before cs ++ lowerChar c ++ lowerChars ds := by
  induction cs generalizing before with
  | nil =>
      have hahead : Text.casedAhead (c :: before) = Text.casedAhead [] := h.casedAhead before
      rw [List.nil_append, lowerFrom, lowerFrom, if_neg h.not_sigma, lowerFrom_congr hahead]
      rfl
  | cons b cs ih =>
      rw [List.cons_append, lowerFrom, lowerFrom, h.casedAhead_append, ih]
      simp only [List.append_assoc]

theorem lowerFrom_blank {c : Char} (h : isBlank c = true) (before cs : List Char) :
    lowerFrom before (c :: cs) = c :: lowerFrom (c :: before) cs := by
  rw [lowerFrom, if_neg (parts_of_isBlank h).not_sigma, lowerChar_of_isBlank h,
    List.singleton_append]

theorem lowerFrom_blanks_append {left : List Char} (h : ∀ c ∈ left, isBlank c = true)
    {before : List Char} (hbefore : casedAhead before = false) (cs : List Char) :
    lowerFrom before (left ++ cs) = left ++ lowerFrom before cs := by
  induction left generalizing before with
  | nil => rfl
  | cons c left ih =>
      obtain ⟨hc, hleft⟩ := List.forall_mem_cons.1 h
      have hahead := (parts_of_isBlank hc).casedAhead before
      rw [List.cons_append, lowerFrom_blank hc, ih hleft hahead,
        lowerFrom_congr (hahead.trans hbefore.symm), List.cons_append]

theorem lowerFrom_append_blanks {right : List Char} (h : ∀ c ∈ right, isBlank c = true)
    (before cs : List Char) : lowerFrom before (cs ++ right) = lowerFrom before cs ++ right := by
  cases right with
  | nil => rw [List.append_nil, List.append_nil]
  | cons c right =>
      obtain ⟨hc, hright⟩ := List.forall_mem_cons.1 h
      have hown : lowerFrom [] (right ++ []) = right ++ lowerFrom [] [] :=
        lowerFrom_blanks_append hright rfl []
      simp only [lowerFrom, List.append_nil] at hown
      rw [(parts_of_isBlank hc).lowerFrom_append, lowerChar_of_isBlank hc, lowerChars, hown,
        List.append_assoc, List.singleton_append]

/-! ## Words -/

theorem exists_lowerFrom (before cs : List Char) :
    ∃ dss, List.Forall₂ Lowered cs dss ∧ lowerFrom before cs = dss.flatten := by
  induction cs generalizing before with
  | nil => exact ⟨[], .nil, rfl⟩
  | cons c cs ih =>
      obtain ⟨dss, hdss, hflat⟩ := ih (c :: before)
      rw [lowerFrom, hflat]
      split
      · rename_i hsigma
        rw [eq_ofNat (beq_iff_eq.1 hsigma)]
        split
        · exact ⟨_ :: dss, .cons lowered_sigma.1 hdss, rfl⟩
        · exact ⟨_ :: dss, .cons lowered_sigma.2 hdss, rfl⟩
      · exact ⟨_ :: dss, .cons (lowered_lowerChar c) hdss, rfl⟩

theorem head?_flatten {α β : Type} {p : α → Bool} {q : β → Bool} {l : List α} {ms : List (List β)}
    (h : List.Forall₂ (fun a m => m ≠ [] ∧ ∀ b ∈ m, q b = p a) l ms)
    (hl : ∀ a ∈ l.head?, p a = false) : ∀ b ∈ ms.flatten.head?, q b = false := by
  cases h with
  | nil => simp
  | @cons a m l ms ha hrest =>
      intro b hb
      rw [List.flatten_cons, List.head?_append_of_ne_nil _ ha.1] at hb
      rw [ha.2 b (List.mem_of_mem_head? hb)]
      exact hl a rfl

theorem bare_lowerChars {cs : List Char} (h : Bare isBlank cs) : Bare isBlank (lowerChars cs) := by
  obtain ⟨dss, hdss, hflat⟩ := exists_lowerFrom [] cs
  rw [lowerChars, hflat]
  constructor
  · exact head?_flatten (hdss.imp fun c ds hc => ⟨hc.ne_nil, hc.blank⟩) h.head
  · intro d hd
    have hreverse : List.Forall₂ (fun c ds => ds ≠ [] ∧ ∀ d ∈ ds, isBlank d = isBlank c)
        cs.reverse (dss.map List.reverse).reverse := by
      rw [List.forall₂_reverse_iff, List.forall₂_map_right_iff]
      refine hdss.imp fun c ds hc => ⟨?_, fun d hd => hc.blank d (List.mem_reverse.1 hd)⟩
      simpa using hc.ne_nil
    refine head?_flatten hreverse (fun c hc => h.last c ?_) d ?_
    · rwa [List.head?_reverse] at hc
    · rwa [← List.reverse_flatten, List.head?_reverse]

/-- It does not matter whether blanks are taken away before or after. -/
theorem strip_lowerChars (cs : List Char) : strip (lowerChars cs) = lowerChars (strip cs) := by
  obtain ⟨left, right, hcs, hleft, hright⟩ := exists_stripOf isBlank cs
  have hlower : lowerChars cs = left ++ lowerChars (strip cs) ++ right := by
    rw [strip, lowerChars, lowerChars, ← lowerFrom_blanks_append hleft rfl,
      ← lowerFrom_append_blanks hright, hcs]
  rw [hlower, strip, stripOf_append hleft hright]
  exact (bare_lowerChars (bare_stripOf isBlank cs)).stripOf_eq

theorem lowerFrom_of_small {cs : List Char} (h : ∀ c ∈ cs, Small c) (before : List Char) :
    lowerFrom before cs = cs := by
  induction cs generalizing before with
  | nil => rfl
  | cons c cs ih =>
      obtain ⟨hc, hcs⟩ := List.forall_mem_cons.1 h
      rw [lowerFrom, if_neg (by simpa using hc.not_sigma), hc.own, ih hcs, List.singleton_append]

theorem small_of_mem_lowerChars {cs : List Char} {d : Char} (h : d ∈ lowerChars cs) : Small d := by
  obtain ⟨dss, hdss, hflat⟩ := exists_lowerFrom [] cs
  rw [lowerChars, hflat] at h
  clear hflat
  induction hdss with
  | nil => cases h
  | @cons c ds cs dss hc _ ih =>
      rw [List.flatten_cons, List.mem_append] at h
      exact h.elim (hc.small d) ih

theorem lowerChars_lowerChars (cs : List Char) : lowerChars (lowerChars cs) = lowerChars cs :=
  lowerFrom_of_small (fun _ => small_of_mem_lowerChars) []

theorem lowerChars_eq_nil_iff {cs : List Char} : lowerChars cs = [] ↔ cs = [] := by
  obtain ⟨dss, hdss, hflat⟩ := exists_lowerFrom [] cs
  rw [lowerChars, hflat]
  cases hdss with
  | nil => simp
  | cons hc _ => simp [hc.ne_nil]

/-- Small letters are digits alone just where the characters are. -/
theorem isNumeral_lowerChars (cs : List Char) :
    Decimal.isNumeral (lowerChars cs) = Decimal.isNumeral cs := by
  obtain ⟨dss, hdss, hflat⟩ := exists_lowerFrom [] cs
  rw [lowerChars, hflat, Decimal.isNumeral, Decimal.isNumeral]
  congr 1
  · cases hdss with
    | nil => rfl
    | @cons c ds cs dss hc _ => simp [hc.ne_nil]
  · clear hflat
    induction hdss with
    | nil => rfl
    | @cons c ds cs dss hc _ ih =>
        obtain ⟨d, hd⟩ := List.exists_mem_of_ne_nil ds hc.ne_nil
        have hall : ds.all Decimal.isDigit = Decimal.isDigit c := by
          rw [Bool.eq_iff_iff, List.all_eq_true]
          exact ⟨fun h => hc.digit d hd ▸ h d hd, fun h d hd => (hc.digit d hd).trans h⟩
        rw [List.flatten_cons, List.all_append, ih, hall, List.all_cons]

theorem exists_isDigit_lowerChars {cs : List Char} :
    (∃ d ∈ lowerChars cs, Decimal.isDigit d = true) ↔ ∃ c ∈ cs, Decimal.isDigit c = true := by
  obtain ⟨dss, hdss, hflat⟩ := exists_lowerFrom [] cs
  rw [lowerChars, hflat]
  clear hflat
  induction hdss with
  | nil => rfl
  | @cons c ds cs dss hc _ ih =>
      have hdigit : (∃ d ∈ ds, Decimal.isDigit d = true) ↔ Decimal.isDigit c = true := by
        constructor
        · rintro ⟨d, hd, hdigit⟩
          exact hc.digit d hd ▸ hdigit
        · intro hdigit
          obtain ⟨d, hd⟩ := List.exists_mem_of_ne_nil ds hc.ne_nil
          exact ⟨d, hd, (hc.digit d hd).trans hdigit⟩
      simp only [List.flatten_cons, List.mem_append, or_and_right, exists_or, ih, hdigit,
        List.mem_cons, exists_eq_left]

theorem lowerChars_of_isNumeral {cs : List Char} (h : Decimal.isNumeral cs = true) :
    lowerChars cs = cs := by
  have hdigits := List.all_eq_true.1 (Bool.and_eq_true_iff.1 h).2
  have hascii : Ascii cs := fun c hc => by
    have := isDigit_iff.1 (hdigits c hc)
    omega
  rw [lowerChars_ascii hascii]
  exact (List.map_congr_left fun c hc => Decimal.toLower_of_isDigit (hdigits c hc)).trans
    (List.map_id _)

/-! ## Text with halves -/

theorem chars?_eq_none_iff {t : Text} : t.chars? = none ↔ ∃ n, .half n ∈ t.letters := by
  obtain ⟨ls⟩ := t
  rw [chars?]
  induction ls with
  | nil => simp
  | cons l ls ih =>
      rw [List.mapM_cons]
      cases l with
      | half n => exact iff_of_true rfl ⟨n, List.mem_cons_self⟩
      | char c =>
          simp only [List.mem_cons, reduceCtorEq, false_or, ← ih]
          cases ls.mapM Letter.char? <;> simp [Letter.char?]

theorem stripOf_map {α β : Type} (p : β → Bool) (f : α → β) (l : List α) :
    stripOf p (l.map f) = (stripOf (p ∘ f) l).map f := by
  rw [stripOf, stripOf, List.dropWhile_map, ← List.map_reverse, List.dropWhile_map, List.map_reverse]

theorem trim_ofChars (cs : List Char) : (ofChars cs).trim = ofChars (strip cs) := by
  rw [trim, ofChars, stripOf_map]
  rfl

theorem chars?_trim (t : Text) : t.trim.chars? = t.chars?.map strip := by
  cases ht : t.chars? with
  | some cs =>
      rw [← ofChars_of_chars? ht, trim_ofChars, chars?_ofChars]
      rfl
  | none =>
      obtain ⟨n, hn⟩ := chars?_eq_none_iff.1 ht
      exact chars?_eq_none_iff.2 ⟨n, mem_stripOf hn rfl⟩

theorem lowerLetters_chars (run cs : List Char) :
    lowerLetters run (cs.map .char) = (lowerChars (run.reverse ++ cs)).map .char := by
  induction cs generalizing run with
  | nil => rw [List.map_nil, lowerLetters, List.append_nil]
  | cons c cs ih =>
      rw [List.map_cons, lowerLetters, ih, List.reverse_cons, List.append_assoc,
        List.singleton_append]

theorem lowerText_ofChars (cs : List Char) : lowerText (ofChars cs) = ofChars (lowerChars cs) :=
  congrArg Text.mk (lowerLetters_chars [] cs)

theorem half_mem_lowerLetters {n : Fin 0x800} {ls : List Letter} (h : .half n ∈ ls)
    (run : List Char) : .half n ∈ lowerLetters run ls := by
  induction ls generalizing run with
  | nil => cases h
  | cons l ls ih =>
      cases l with
      | char c => exact ih (by simpa using h) (c :: run)
      | half m =>
          rw [lowerLetters, List.mem_append]
          rcases List.mem_cons.1 h with heq | h
          · exact .inr (heq ▸ List.mem_cons_self)
          · exact .inr (List.mem_cons_of_mem _ (ih h []))

theorem chars?_lowerText (t : Text) : (lowerText t).chars? = t.chars?.map lowerChars := by
  cases ht : t.chars? with
  | some cs =>
      rw [← ofChars_of_chars? ht, lowerText_ofChars, chars?_ofChars]
      rfl
  | none =>
      obtain ⟨n, hn⟩ := chars?_eq_none_iff.1 ht
      exact chars?_eq_none_iff.2 ⟨n, half_mem_lowerLetters hn []⟩

end DiagnosticCatalog.Text
