import DiagnosticCatalog.IssueName
import DiagnosticCatalog.Proofs.Text
import DiagnosticCatalog.Proofs.Text.Case
/-!
Names of issues with ASCII identifiers. Folded, the name is the identifier in small letters without
its underscores, so a name has a digit only if its identifier has one.
-/

namespace DiagnosticCatalog

theorem Text.Ascii.splitAt {cs : List Char} (h : Ascii cs) (sep : Char) {piece : List Char}
    (hp : piece ∈ Text.splitAt sep cs) : Ascii piece := by
  intro c hc
  have hm : c ∈ (Text.splitAt sep cs).flatten := List.mem_flatten.2 ⟨piece, hp, hc⟩
  rw [flatten_splitAt] at hm
  exact h c ((List.mem_filter.1 hm).1)

namespace IssueName

open Text

theorem ascii_ofIdentifier {cs : List Char} (h : Ascii cs) : Ascii (ofIdentifier cs) := by
  intro c hc
  rw [ofIdentifier, lowerChars_ascii h] at hc
  obtain ⟨piece, hp, hc⟩ := List.mem_flatMap.1 hc
  have hl : Ascii (cs.map Char.toLower) := h.map fun _ => toLower_ascii
  exact (hl.splitAt '_' hp).capitalize c hc

theorem map_toLower_ofIdentifier {cs : List Char} (h : Ascii cs) :
    (ofIdentifier cs).map Char.toLower = (cs.map Char.toLower).filter (· ≠ '_') := by
  have hl : Ascii (cs.map Char.toLower) := h.map fun _ => toLower_ascii
  have hsmall : ((cs.map Char.toLower).filter (· ≠ '_')).map Char.toLower =
      (cs.map Char.toLower).filter (· ≠ '_') := by
    refine (List.map_congr_left fun c hc => ?_).trans (List.map_id _)
    obtain ⟨d, hd, rfl⟩ := List.mem_map.1 ((List.mem_filter.1 hc).1)
    exact toLower_toLower (h d hd)
  rw [ofIdentifier, lowerChars_ascii h, List.map_flatMap]
  calc (splitAt '_' (cs.map Char.toLower)).flatMap (fun piece => (capitalize piece).map Char.toLower)
      = ((splitAt '_' (cs.map Char.toLower)).map (List.map Char.toLower)).flatten := by
        rw [List.flatMap_def, List.map_congr_left]
        exact fun piece hp => map_toLower_capitalize (hl.splitAt '_' hp)
    _ = ((splitAt '_' (cs.map Char.toLower)).flatten).map Char.toLower := List.map_flatten.symm
    _ = (cs.map Char.toLower).filter (· ≠ '_') := by rw [flatten_splitAt, hsmall]

/-- The folded name is the identifier in small letters without underscores. -/
theorem fold_derive {identifier : String} (h : Ascii identifier.toList) :
    fold (derive identifier) =
      String.ofList ((identifier.toList.map Char.toLower).filter (· ≠ '_')) := by
  rw [fold, lower, derive, String.toList_ofList, lowerChars_ascii (ascii_ofIdentifier h),
    map_toLower_ofIdentifier h]

/-- A character of a name that has no case stands in the identifier. -/
theorem mem_of_mem_ofIdentifier {cs : List Char} (h : Ascii cs) {c : Char}
    (hc : c ∈ ofIdentifier cs) : ∃ d ∈ cs, d.toLower = c.toLower := by
  have hm : c.toLower ∈ (ofIdentifier cs).map Char.toLower := List.mem_map_of_mem hc
  rw [map_toLower_ofIdentifier h] at hm
  exact List.mem_map.1 ((List.mem_filter.1 hm).1)

end IssueName

end DiagnosticCatalog
