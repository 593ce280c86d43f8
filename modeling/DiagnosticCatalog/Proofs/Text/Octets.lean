/-!
The octets of a string. Where none is above U+007F they are the numbers of its characters, which is
how the characters of long tables are looked at.
-/

namespace DiagnosticCatalog.Text

/-- The numbers of the octets of a string. -/
def octets (s : String) : List Nat := s.toByteArray.data.toList.map UInt8.toNat

theorem octets_eq_flatMap (s : String) :
    octets s = (s.toList.flatMap String.utf8EncodeChar).map UInt8.toNat := by
  rw [octets, ← String.utf8Encode_toList, List.utf8Encode, List.data_toByteArray]

theorem octets_of_le {c : Char} (h : c.toNat ≤ 0x7F) :
    (String.utf8EncodeChar c).map UInt8.toNat = [c.toNat] := by
  have hencode : String.utf8EncodeChar c = [UInt8.ofNat c.toNat] := if_pos h
  have hmod : c.toNat % 2 ^ 8 = c.toNat := by omega
  rw [hencode, List.map_singleton, UInt8.toNat_ofNat', hmod]

theorem exists_octet_of_lt {c : Char} (h : 0x7F < c.toNat) :
    ∃ b ∈ String.utf8EncodeChar c, 0x80 ≤ b.toNat := by
  have hne : ¬c.val.toNat ≤ 0x7F := Nat.not_le.2 h
  simp only [String.utf8EncodeChar, if_neg hne]
  split
  · refine ⟨_, List.mem_cons_self, ?_⟩
    rw [UInt8.toNat_ofNat']
    omega
  · split
    · refine ⟨_, List.mem_cons_self, ?_⟩
      rw [UInt8.toNat_ofNat']
      omega
    · refine ⟨_, List.mem_cons_self, ?_⟩
      rw [UInt8.toNat_ofNat']
      omega

/-- The octets of an ASCII string are the numbers of its characters. -/
theorem octets_eq {s : String} (h : ∀ n ∈ octets s, n < 0x80) : octets s = s.toList.map Char.toNat := by
  rw [octets_eq_flatMap] at h ⊢
  generalize s.toList = cs at h ⊢
  induction cs with
  | nil => rfl
  | cons c cs ih =>
      rw [List.flatMap_cons, List.map_append] at h ⊢
      obtain ⟨hc, hcs⟩ := List.forall_mem_append.1 h
      have hle : c.toNat ≤ 0x7F := by
        apply Decidable.byContradiction
        intro hlt
        obtain ⟨b, hb, hge⟩ := exists_octet_of_lt (Nat.lt_of_not_le hlt)
        exact absurd (hc b.toNat (List.mem_map_of_mem hb)) (Nat.not_lt.2 hge)
      rw [octets_of_le hle, ih hcs]
      rfl

end DiagnosticCatalog.Text
