import DiagnosticCatalog.IssueName
import DiagnosticCatalog.Proofs.Descent
import DiagnosticCatalog.Proofs.Text.Lower
/-!
Names are made piece by piece. Words part at an underscore, so the small letters of a piece do not
depend on what stands around it, and no other character has an underscore among its small letters or
capitals. A name is therefore the names of the pieces put together, with no underscore in it.
-/

namespace DiagnosticCatalog

namespace Text

/-! ## Underscores and case -/

theorem parts_underscore : Parts '_' := ⟨by decide +kernel, by decide +kernel⟩

/-- A sigma before the underscore does not see what is behind it. -/
theorem lowerChars_append (cs ds : List Char) :
    lowerChars (cs ++ '_' :: ds) = lowerChars cs ++ '_' :: lowerChars ds := by
  have hown : lowerChar '_' = ['_'] := by decide
  rw [lowerChars, parts_underscore.lowerFrom_append, hown, List.append_assoc,
    List.singleton_append]
  rfl

theorem ofNat_ne {n : Nat} {c : Char} (h : n ≠ c.toNat) (hc : c.toNat ≠ 0) : Char.ofNat n ≠ c := by
  rintro rfl
  by_cases hvalid : n.isValidChar
  · exact h (toNat_ofNat hvalid).symm
  · -- A number that belongs to no character gives the one with number 0.
    rw [Char.ofNat, dif_neg hvalid] at hc
    exact hc rfl

/-- Where what the spans map to lies apart from the underscore, no other character becomes one. -/
theorem mapSpan_ne_underscore {spans : List Span}
    (h : (spans.all fun s => areApart s.image (0x5F, 0x5F)) = true) {c : Char} (hc : c ≠ '_') :
    mapSpan spans c ≠ '_' := by
  rw [mapSpan]
  cases hfind : spans.find? (·.covers c.toNat) with
  | none => exact hc
  | some s =>
      have hcovers : s.covers c.toNat = true := by simpa using List.find?_some hfind
      obtain ⟨hfirst, hlast, _⟩ := covers_eq_true_iff.1 hcovers
      have hapart := areApart_iff.1 (List.all_eq_true.1 h s (List.mem_of_find?_eq_some hfind))
      have hcode : '_'.toNat = 0x5F := rfl
      refine ofNat_ne ?_ (by decide)
      simp only [Span.image] at hapart
      omega

theorem ne_underscore_of_ascii {c : Char} (h : c.toNat < 0x80) (hc : c ≠ '_') :
    c.toLower ≠ '_' ∧ c.toUpper ≠ '_' :=
  forall_ascii (P := fun c => c ≠ '_' → c.toLower ≠ '_' ∧ c.toUpper ≠ '_') (by decide) h hc

theorem eq_underscore_of_mem_lowerChar {c : Char} (h : '_' ∈ lowerChar c) : c = '_' := by
  by_contra hc
  rw [lowerChar] at h
  split at h
  · rename_i hascii
    exact (ne_underscore_of_ascii hascii hc).1 (List.mem_singleton.1 h).symm
  · split at h
    · exact absurd h (by decide)
    · exact mapSpan_ne_underscore (by decide +kernel) hc (List.mem_singleton.1 h).symm

theorem underscore_not_mem_upperSequences :
    ∀ row ∈ upperSequences, '_' ∉ row.2.map Char.ofNat := by decide +kernel

theorem eq_underscore_of_mem_upperChar {c : Char} (h : '_' ∈ upperChar c) : c = '_' := by
  by_contra hc
  rw [upperChar] at h
  split at h
  · rename_i hascii
    exact (ne_underscore_of_ascii hascii hc).2 (List.mem_singleton.1 h).symm
  · split at h
    · rename_i codes hcodes
      exact underscore_not_mem_upperSequences _ (Descent.mem_of_lookup hcodes) h
    · exact mapSpan_ne_underscore (by decide +kernel) hc (List.mem_singleton.1 h).symm

theorem underscore_mem_of_mem_lowerFrom {before cs : List Char} (h : '_' ∈ lowerFrom before cs) :
    '_' ∈ cs := by
  induction cs generalizing before with
  | nil => cases h
  | cons c cs ih =>
      rw [lowerFrom, List.mem_append] at h
      rcases h with hfirst | hrest
      · split at hfirst
        · -- A sigma, in either of its small forms.
          split at hfirst <;> exact absurd hfirst (by decide)
        · exact eq_underscore_of_mem_lowerChar hfirst ▸ List.mem_cons_self
      · exact List.mem_cons_of_mem c (ih hrest)

end Text

namespace IssueName

open Text

/-! ## Pieces of a name -/

theorem ofIdentifier_append (cs ds : List Char) :
    ofIdentifier (cs ++ '_' :: ds) = ofIdentifier cs ++ ofIdentifier ds := by
  rw [ofIdentifier, lowerChars_append, splitAt_append, List.flatMap_append]
  rfl

theorem ofIdentifier_of_not_mem {cs : List Char} (h : '_' ∉ cs) :
    ofIdentifier cs = capitalize (lowerChars cs) := by
  have hlower : '_' ∉ lowerChars cs := mt underscore_mem_of_mem_lowerFrom h
  rw [ofIdentifier, splitAt_of_not_mem hlower, List.flatMap_singleton]

theorem underscore_not_mem_capitalize {cs : List Char} (h : '_' ∉ cs) : '_' ∉ capitalize cs := by
  cases cs with
  | nil => exact h
  | cons c cs =>
      obtain ⟨hfirst, hrest⟩ := not_or.1 (mt List.mem_cons.2 h)
      rw [capitalize, List.mem_append, not_or]
      exact ⟨fun hupper => hfirst (eq_underscore_of_mem_upperChar hupper).symm, hrest⟩

theorem underscore_not_mem_ofIdentifier (cs : List Char) : '_' ∉ ofIdentifier cs := by
  intro h
  obtain ⟨piece, hpiece, hmem⟩ := List.mem_flatMap.1 h
  exact underscore_not_mem_capitalize (not_mem_of_mem_splitAt hpiece) hmem

/-- With any pieces joined at underscores, the names of the pieces are joined as they are. -/
theorem ofIdentifier_intercalate (pieces : List (List Char)) :
    ofIdentifier (['_'].intercalate pieces) = pieces.flatMap ofIdentifier := by
  induction pieces with
  | nil => rfl
  | cons piece pieces ih =>
      cases pieces with
      | nil => rw [List.intercalate_singleton, List.flatMap_singleton]
      | cons next rest =>
          rw [List.intercalate_cons_cons, List.append_assoc, List.singleton_append,
            ofIdentifier_append, ih]
          rfl

theorem ofIdentifier_eq_flatMap (cs : List Char) :
    ofIdentifier cs = (splitAt '_' cs).flatMap fun piece => capitalize (lowerChars piece) := by
  calc ofIdentifier cs = ofIdentifier (['_'].intercalate (splitAt '_' cs)) := by
        rw [intercalate_splitAt]
    _ = (splitAt '_' cs).flatMap ofIdentifier := ofIdentifier_intercalate _
    _ = (splitAt '_' cs).flatMap fun piece => capitalize (lowerChars piece) :=
        List.flatMap_congr fun _ hpiece => ofIdentifier_of_not_mem (not_mem_of_mem_splitAt hpiece)

theorem derive_intercalate (pieces : List String) :
    derive ("_".intercalate pieces) =
      String.ofList (pieces.flatMap fun piece => ofIdentifier piece.toList) := by
  rw [derive, String.toList_intercalate]
  exact congrArg String.ofList ((ofIdentifier_intercalate _).trans (List.flatMap_map _ _ _))

/-- An empty piece is what an underscore at either end, or next to another one, leaves. -/
theorem derive_intercalate_filter (pieces : List String) :
    derive ("_".intercalate (pieces.filter (· ≠ ""))) = derive ("_".intercalate pieces) := by
  rw [derive_intercalate, derive_intercalate, String.ofList_inj]
  induction pieces with
  | nil => rfl
  | cons piece pieces ih =>
      by_cases hempty : piece = ""
      · rw [List.filter_cons_of_neg (by simpa using hempty), ih, hempty, List.flatMap_cons]
        rfl
      · rw [List.filter_cons_of_pos (by simpa using hempty), List.flatMap_cons, ih,
          List.flatMap_cons]

/-- Of two identifiers with an underscore between them the name is that of the one followed by that of
the other. No name has an underscore: it is the pieces of the identifier between underscores, each
put in small letters and given a capital by itself, and pieces with nothing in them add nothing. -/
theorem derive_piecewise :
    (∀ a b : String, derive (a ++ "_" ++ b) = derive a ++ derive b) ∧
    (∀ s, '_' ∉ (derive s).toList) ∧
    (∀ s, derive s = String.ofList
      ((splitAt '_' s.toList).flatMap fun piece => capitalize (lowerChars piece))) ∧
    ∀ pieces : List String,
      derive ("_".intercalate (pieces.filter (· ≠ ""))) = derive ("_".intercalate pieces) := by
  refine ⟨fun a b => ?append, fun s => ?plain, fun s => ?pieces, derive_intercalate_filter⟩
  case append =>
    have htext : (a ++ "_" ++ b).toList = a.toList ++ '_' :: b.toList := by
      rw [String.toList_append, String.toList_append, List.append_assoc]
      rfl
    rw [derive, htext, ofIdentifier_append, String.ofList_append]
    rfl
  case plain =>
    rw [derive, String.toList_ofList]
    exact underscore_not_mem_ofIdentifier _
  case pieces => exact congrArg String.ofList (ofIdentifier_eq_flatMap _)

/-- A sigma before an underscore is final, and a capital may be two letters. -/
example : derive "\u0391\u03a3__\u00dfa" = "\u0391\u03c2SSa" := by decide +kernel

end IssueName

end DiagnosticCatalog
