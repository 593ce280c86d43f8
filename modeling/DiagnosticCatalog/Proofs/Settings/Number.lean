import DiagnosticCatalog.Proofs.Decimal.Shortest
import DiagnosticCatalog.Proofs.Registry.Address
import DiagnosticCatalog.Proofs.Registry.Resolution
import DiagnosticCatalog.Proofs.Settings.Grammar
import DiagnosticCatalog.Proofs.Settings.Strictest
/-!
Numbers as tokens of a settings document. A whole number means the issue with the code. One that is
written with a point or an exponent passes for a whole number where the document is judged, but its
text keeps the point, and that is no code and no name: it is always missed.
-/

namespace DiagnosticCatalog

open Text

namespace Standard

set_option maxRecDepth 20000 in
theorem codes_writable : ∀ d ∈ standardDeclarations,
    0 ≤ d.code ∧ Decimal.isWritable d.code = true := by
  decide +kernel

end Standard

theorem Value.display_whole (n : Int) : (Value.whole n).display = decimalToken n := rfl

theorem Value.display_real (x : Decimal.Binary64) : (Value.real x).display = .ofString x.text := rfl

/-- The digits of a code stand for its issue. -/
theorem Text.denotes_decimalToken {n : Nat} (hn : Decimal.isWritable n = true) {i : Issue}
    (hcode : i.code = n) : (decimalToken n).Denotes i := by
  have htrim : (decimalToken n).trim = ofChars (Decimal.digits n) := by
    rw [decimalToken, ofString, toList_intText, trim_ofChars, strip_intDigits]
    rfl
  have hlength : (Decimal.digits n).length ≤ Decimal.digitLimit := by
    refine Nat.not_lt.1 fun hlong => Registry.not_overlong_decimalToken hn ?_
    exact overlong_iff.2 ⟨_, chars?_eq_some_iff.2 htrim, Decimal.isNumeral_digits n, hlong⟩
  exact .code htrim (Decimal.isNumeral_digits n) hlength (hcode ▸ by rw [Decimal.ofDigits_digits])

namespace Settings

theorem mem_pieces {entries : List (Value × Value)} {piece : Text} :
    piece ∈ pieces entries ↔ ∃ e ∈ severityEntries entries,
      (∃ s, Severity.parse e.1.display = .ok s) ∧
        ∃ t ∈ tokenValues e.2, piece ∈ Registry.tokenPieces t.display := by
  simp only [pieces, List.mem_flatMap, List.mem_filter, decide_eq_true_eq, toOption_eq_some]
  constructor
  · rintro ⟨s, _, e, ⟨he, hs⟩, ht⟩
    exact ⟨e, he, ⟨s, hs⟩, ht⟩
  · rintro ⟨e, he, ⟨s, hs⟩, ht⟩
    exact ⟨s, Severity.mem_all s, e, ⟨he, hs⟩, ht⟩

theorem Leaves.of_mentions {r : Registry} {entries : List (Value × Value)} {e f : Entry}
    (h : Leaves r entries e f) {s : Severity} (hs : Mentions r entries s e.issue) :
    ∃ t, s ≤ t ∧ f = ⟨e.issue, .explicit t, true⟩ := by
  cases h with
  | mentioned _ hmost => exact ⟨_, hmost s hs, rfl⟩
  | listed hno => exact absurd hs (hno s)
  | kept hno => exact absurd hs (hno s)

end Settings

namespace Registry

theorem tokenPieces_of_isMarked {cs : List Char} (hcs : Decimal.IsMarked cs) :
    tokenPieces (ofChars cs) = [ofChars cs] := by
  refine tokenPieces_of_not_mem fun hcomma => hcs.not_comma ?_
  simpa [ofChars] using hcomma

section

variable {r : Registry} (h : Reached standardDeclarations r)

include h

theorem Reached.exists_code {e : Entry} (he : e ∈ r.entries) :
    ∃ d ∈ standardDeclarations, e.issue.code = d.code := by
  obtain ⟨_, ws, rfl⟩ := h.eq_commit
  rw [entries_commit_build] at he
  obtain ⟨d, hd, rfl⟩ := List.mem_map.1 he
  exact ⟨d, hd, by rw [entryAfter_issue]; rfl⟩

theorem Reached.resolveText_decimalToken {e : Entry} (he : e ∈ r.entries) :
    r.resolveText (decimalToken e.issue.code) = .ok (some e) := by
  obtain ⟨d, hd, hcode⟩ := h.exists_code he
  obtain ⟨hsign, hw⟩ := Standard.codes_writable d hd
  obtain ⟨n, hn⟩ := Int.eq_ofNat_of_zero_le hsign
  rw [hn] at hcode hw
  rw [hcode]
  exact (resolveText_eq_some_iff h).2 ⟨he, Text.denotes_decimalToken hw hcode⟩

/-- What has a digit, but not digits alone, names nothing. -/
theorem Reached.resolveText_of_isMarked {cs : List Char} (hcs : Decimal.IsMarked cs) :
    r.resolveText (ofChars cs) = .ok none := by
  have htrim : (ofChars cs).trim.chars? = some cs := by
    rw [trim_ofChars, chars?_ofChars, strip, stripOf_eq_self fun c hc => hcs.not_isBlank hc]
  rw [resolveText_eq_none_iff h, overlong_iff, htrim]
  constructor
  · rintro ⟨_, ⟨⟩, hnumeral, _⟩
    cases hcs.isNumeral.symm.trans hnumeral
  · intro e he hdenotes
    obtain ⟨_, hword, hfor⟩ := denotes_iff.1 hdenotes
    rw [htrim] at hword
    obtain rfl := Option.some.inj hword
    rcases hfor with ⟨hnumeral, _⟩ | hfold
    · cases hcs.isNumeral.symm.trans hnumeral
    · obtain ⟨d, hd, hname⟩ := h.exists_declaration he
      have hdigit := exists_isDigit_lowerChars.2 hcs.digit
      rw [hfold, exists_isDigit_lowerChars, hname] at hdigit
      obtain ⟨c, hc, hdigit⟩ := hdigit
      cases (Standard.plain_of_mem_name hd hc).2.symm.trans hdigit

theorem Reached.issueNamed?_whole {e : Entry} (he : e ∈ r.entries) :
    r.issueNamed? (decimalToken e.issue.code) = some e.issue := by
  rw [issueNamed?, named, isEmpty_decimalToken, if_neg Bool.false_ne_true,
    h.resolveText_decimalToken he]

theorem Reached.issueNamed?_of_isMarked {cs : List Char} (hcs : Decimal.IsMarked cs) :
    r.issueNamed? (ofChars cs) = none := by
  rw [issueNamed?, named, h.resolveText_of_isMarked hcs, ite_self]

/-- A run of too many digits is no name of the standard registry. -/
theorem Reached.stops_iff_overlong {piece : Text} : r.Stops piece ↔ piece.Overlong := by
  refine ⟨fun hstops => hstops.1, fun hlong => ⟨hlong, fun s hs => ?_⟩⟩
  have herror := (resolveText_eq_error_iff h).2 ⟨hlong, rfl⟩
  rw [resolveText, Option.mem_def.1 hs] at herror
  exact (resolveString_eq_error_iff.1 herror).1

/-- Settings come to their end unless a token has too many digits. -/
theorem Reached.isOk_applySettings_iff {entries : List (Value × Value)} :
    (r.applySettings (Settings.ofEntries entries)).outcome.isOk = true ↔
      ∀ piece ∈ Settings.pieces entries, ¬piece.Overlong := by
  rw [h.isOk_applySettings, ← (configureSeverities_does r true _).outcome, configureSeverities,
    Run.outcome_noting, applyBatch_eq, isOk_applyEach, ← pieces_ofEntries]
  simp only [h.stops_iff_overlong, List.forall_mem_map]

theorem Reached.mentions_whole {entries : List (Value × Value)} {e : Value × Value}
    (he : e ∈ Settings.severityEntries entries) {f : Entry} (hf : f ∈ r.entries)
    (ht : .whole f.issue.code ∈ Settings.tokenValues e.2) {s : Severity}
    (hs : Severity.parse e.1.display = .ok s) : Settings.Mentions r entries s f.issue := by
  have hpiece : decimalToken f.issue.code ∈ tokenPieces (decimalToken f.issue.code) := by
    rw [tokenPieces_decimalToken, List.mem_singleton]
  exact ⟨e, he, hs, _, ht, _, hpiece, h.issueNamed?_whole hf⟩

theorem Reached.not_names_of_isMarked {cs : List Char} (hcs : Decimal.IsMarked cs) (i : Issue) :
    ¬r.Names (ofChars cs) i := by
  rintro ⟨piece, hpiece, hi⟩
  rw [tokenPieces_of_isMarked hcs, List.mem_singleton] at hpiece
  rw [hpiece, h.issueNamed?_of_isMarked hcs] at hi
  cases hi

end

/-- In every state of the standard registry, an accepted document is applied to its end unless a token
has too many digits. Then each token that is a whole number and the code of an issue is written to it,
at least as severe as under its word, and is not told as missed; and each that is a number with a
whole value, but of the kind with a point or an exponent, names no issue and is told as missed. -/
theorem Reached.applySettings_numbers {r : Registry} (h : Reached standardDeclarations r)
    {path? : Option String} {v : Value} {s : Settings}
    (hread : Settings.ofDocument path? v = .ok s) :
    ∃ entries, v.content = .map entries ∧
      ((r.applySettings s).outcome.isOk = true ↔
        ∀ piece ∈ Settings.pieces entries, ¬piece.Overlong) ∧
      ∀ missed, (r.applySettings s).outcome = .ok missed →
        ∀ e ∈ Settings.severityEntries entries, ∀ t ∈ Settings.tokenValues e.2,
          (∀ f ∈ r.entries, t = .whole f.issue.code → t.display ∉ missed ∧
            ∃ asked left, Severity.parse e.1.display = .ok asked ∧ asked ≤ left ∧
              ⟨f.issue, .explicit left, true⟩ ∈ (r.applySettings s).registry.entries) ∧
          ∀ x n, t = .real x → x.toInt? = some n →
            t.display ∈ missed ∧ ∀ i, ¬r.Names t.display i := by
  obtain ⟨entries, hcontent, rfl⟩ := Settings.ofDocument_eq_ok hread
  refine ⟨entries, hcontent, h.isOk_applySettings_iff, fun missed hok e he t ht => ?_⟩
  obtain ⟨asked, hasked⟩ := Settings.exists_parse hread hcontent e he
  have hmissed : missed = (Settings.pieces entries).filter fun p => (r.issueNamed? p).isNone := by
    rw [missed_of_applySettings hok, ← missedPieces_ofEntries]
    rfl
  constructor
  · rintro f hf rfl
    constructor
    · intro hmem
      rw [hmissed, Value.display_whole, List.mem_filter, h.issueNamed?_whole hf] at hmem
      cases hmem.2
    · have hmention := h.mentions_whole he hf ht hasked
      obtain ⟨left, hle, hleft⟩ := (Settings.leaves_ofEntries r entries f).of_mentions hmention
      refine ⟨asked, left, hasked, hle, ?_⟩
      rw [applySettings_registry h.resolvable.codes h.addressed hok]
      exact List.mem_map.2 ⟨f, hf, hleft⟩
  · rintro x n rfl hx
    have hmarked := Decimal.isMarked_text hx
    rw [Value.display_real]
    refine ⟨?_, h.not_names_of_isMarked hmarked⟩
    have hpiece : ofString x.text ∈ tokenPieces (Value.real x).display := by
      rw [Value.display_real, ofString, tokenPieces_of_isMarked hmarked, List.mem_singleton]
    rw [hmissed, List.mem_filter]
    refine ⟨Settings.mem_pieces.2 ⟨e, he, ⟨asked, hasked⟩, _, ht, hpiece⟩, ?_⟩
    rw [ofString, h.issueNamed?_of_isMarked hmarked]
    rfl

/-- The number seven as it is read where it is written with a point. -/
def sevenPointZero : Decimal.Binary64 := .ofInt 7

/-- A document that asks for errors. -/
def errorDocument (tokens : Value) : Value :=
  .map [(.text "severities", .map [(.text "error", tokens)])]

def sampleNumbers : Settings := ⟨none, false, false, [("2", .error), ("7.0", .error)]⟩

theorem Reached.applySettings_numbers_sample :
    Settings.ofDocument none (errorDocument (.list [.whole 2, .real sevenPointZero])) =
        .ok sampleNumbers ∧
      ∃ missed, (standard.applySettings sampleNumbers).outcome = .ok missed ∧
        ("2" : Text) ∉ missed ∧ ("7.0" : Text) ∈ missed ∧
        ∃ e ∈ (standard.applySettings sampleNumbers).registry.entries,
          e.issue.code = 2 ∧ e.userSet = true := by
  have hread : Settings.ofDocument none (errorDocument (.list [.whole 2, .real sevenPointZero])) =
      .ok sampleNumbers := toOption_eq_some.1 (by decide +kernel)
  obtain ⟨entries, hcontent, hok, hnumbers⟩ := reached_standard.applySettings_numbers hread
  obtain rfl := Value.map.inj hcontent
  obtain ⟨missed, hmissed⟩ := exists_of_isOk (hok.2 (by decide +kernel))
  have htokens := hnumbers missed hmissed (.text "error", .list [.whole 2, .real sevenPointZero])
    List.mem_cons_self
  obtain ⟨f, hf⟩ := Option.isSome_iff_exists.1
    (show (standard.byCode? 2).isSome = true by decide +kernel)
  obtain ⟨hmem, hcode⟩ := mem_of_byCode? hf
  obtain ⟨htwo, _, left, _, _, hleft⟩ :=
    (htokens (.whole 2) List.mem_cons_self).1 f hmem (by rw [hcode])
  obtain ⟨hseven, _⟩ := (htokens (.real sevenPointZero) (.tail _ (.head _))).2
    sevenPointZero 7 rfl (by decide +kernel)
  have htext : (Value.whole 2).display = ("2" : Text) := by decide +kernel
  have htext' : (Value.real sevenPointZero).display = ("7.0" : Text) := by decide +kernel
  rw [htext] at htwo
  rw [htext'] at hseven
  exact ⟨hread, missed, hmissed, htwo, hseven, _, hleft, hcode, rfl⟩

/-- The document is accepted, and its number is the code of an issue, but the text is missed and
nothing is written. -/
theorem applySettings_sevenPointZero :
    Settings.ofDocument none (errorDocument (.real sevenPointZero)) =
        .ok ⟨none, false, false, [("7.0", .error)]⟩ ∧
      sevenPointZero.toInt? = some 7 ∧ (standard.byCode? 7).isSome = true ∧
      (standard.applySettings (⟨none, false, false, [("7.0", .error)]⟩ : Settings)).outcome =
        .ok ["7.0"] ∧
      (standard.applySettings (⟨none, false, false, [("7.0", .error)]⟩ : Settings)).registry =
        standard := by
  have hvalue : sevenPointZero.toInt? = some 7 := by decide +kernel
  have htext : sevenPointZero.text = "7.0" := by decide +kernel
  have hmarked := Decimal.isMarked_text hvalue
  rw [htext] at hmarked
  have hnamed : standard.named "7.0" = .ok none := by
    rw [named, ofString, reached_standard.resolveText_of_isMarked hmarked, ite_self]
  have hpieces : tokenPieces "7.0" = [ofString "7.0"] := tokenPieces_of_isMarked hmarked
  have hrun : standard.applySettings (⟨none, false, false, [("7.0", .error)]⟩ : Settings) =
      ((Run.done standard ()).andThen fun r _ => r.configureSeverities [("7.0", .error)] true) := rfl
  have hbatch : standard.configureSeverities [("7.0", .error)] true =
      (Run.done standard [ofString "7.0"]).noting fun missed => missed.map .unrecognized := by
    rw [configureSeverities, applyBatch, applyToken, hpieces, applyPieces, applyPiece_eq, hnamed]
    rfl
  rw [hrun, Run.done_andThen, hbatch]
  exact ⟨toOption_eq_some.1 (by decide +kernel), hvalue, by decide +kernel, rfl, rfl⟩

end Registry

end DiagnosticCatalog
