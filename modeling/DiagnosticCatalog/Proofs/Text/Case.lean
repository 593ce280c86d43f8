import DiagnosticCatalog.Text.Case
/-!
The case of ASCII text. There every character is mapped alone, and a capital becomes small again.
-/

namespace DiagnosticCatalog.Text

/-- All characters are below U+0080. -/
def Ascii (cs : List Char) : Prop := ∀ c ∈ cs, c.toNat < 0x80

theorem forall_ascii {P : Char → Prop} (h : ∀ n < 0x80, P (Char.ofNat n)) {c : Char}
    (hc : c.toNat < 0x80) : P c := by
  have hn := h c.toNat hc
  rwa [Char.ofNat_toNat] at hn

theorem toLower_ascii {c : Char} (h : c.toNat < 0x80) : c.toLower.toNat < 0x80 :=
  forall_ascii (P := fun c => c.toLower.toNat < 0x80) (by decide) h

theorem toUpper_ascii {c : Char} (h : c.toNat < 0x80) : c.toUpper.toNat < 0x80 :=
  forall_ascii (P := fun c => c.toUpper.toNat < 0x80) (by decide) h

theorem toLower_toUpper {c : Char} (h : c.toNat < 0x80) : c.toUpper.toLower = c.toLower :=
  forall_ascii (P := fun c => c.toUpper.toLower = c.toLower) (by decide) h

theorem toLower_toLower {c : Char} (h : c.toNat < 0x80) : c.toLower.toLower = c.toLower :=
  forall_ascii (P := fun c => c.toLower.toLower = c.toLower) (by decide) h

theorem isAlpha_toLower {c : Char} (h : c.toNat < 0x80) : c.toLower.isAlpha = c.isAlpha :=
  forall_ascii (P := fun c => c.toLower.isAlpha = c.isAlpha) (by decide) h

theorem isAlphanum_toLower {c : Char} (h : c.toNat < 0x80) :
    c.toLower.isAlphanum = c.isAlphanum :=
  forall_ascii (P := fun c => c.toLower.isAlphanum = c.isAlphanum) (by decide) h

theorem ascii_of_isAlphanum {c : Char} (h : c.isAlphanum = true) : c.toNat < 0x80 := by
  delta Char.isAlphanum Char.isAlpha Char.isUpper Char.isLower Char.isDigit at h
  simp only [Bool.or_eq_true, Bool.and_eq_true, decide_eq_true_eq, ge_iff_le,
    UInt32.le_iff_toNat_le] at h
  have hcode : c.toNat = c.val.toNat := rfl
  have hZ : 'Z'.val.toNat = 90 := rfl
  have hz : 'z'.val.toNat = 122 := rfl
  have h9 : '9'.val.toNat = 57 := rfl
  omega

theorem Ascii.map {cs : List Char} (h : Ascii cs) {f : Char → Char}
    (hf : ∀ c : Char, c.toNat < 0x80 → (f c).toNat < 0x80) : Ascii (cs.map f) := by
  intro c hc
  obtain ⟨d, hd, rfl⟩ := List.mem_map.1 hc
  exact hf d (h d hd)

theorem lowerFrom_ascii {cs : List Char} (h : Ascii cs) (before : List Char) :
    lowerFrom before cs = cs.map Char.toLower := by
  induction cs generalizing before with
  | nil => rfl
  | cons c cs ih =>
      obtain ⟨hc, hcs⟩ := List.forall_mem_cons.1 h
      have hsigma : ¬(c.toNat == 0x3A3) = true := by
        rw [beq_iff_eq]
        omega
      simp only [lowerFrom, if_neg hsigma, lowerChar, if_pos hc, ih hcs, List.map_cons,
        List.singleton_append]

theorem lowerChars_ascii {cs : List Char} (h : Ascii cs) : lowerChars cs = cs.map Char.toLower :=
  lowerFrom_ascii h []

theorem capitalize_ascii {c : Char} {cs : List Char} (h : c.toNat < 0x80) :
    capitalize (c :: cs) = c.toUpper :: cs := by
  rw [capitalize, upperChar, if_pos h]
  rfl

theorem Ascii.capitalize {cs : List Char} (h : Ascii cs) : Ascii (capitalize cs) := by
  cases cs with
  | nil => exact h
  | cons c cs =>
      obtain ⟨hc, hcs⟩ := List.forall_mem_cons.1 h
      rw [capitalize_ascii hc]
      exact List.forall_mem_cons.2 ⟨toUpper_ascii hc, hcs⟩

theorem map_toLower_capitalize {cs : List Char} (h : Ascii cs) :
    (capitalize cs).map Char.toLower = cs.map Char.toLower := by
  cases cs with
  | nil => rfl
  | cons c cs =>
      have hc := h c List.mem_cons_self
      rw [capitalize_ascii hc, List.map_cons, List.map_cons, toLower_toUpper hc]

end DiagnosticCatalog.Text
