import DiagnosticCatalog.Proofs.Registry.Bootstrap
import DiagnosticCatalog.Proofs.Registry.Failure
import DiagnosticCatalog.Proofs.Text.Lower
/-!
The two ways to ask for the level of one issue. `setLevel` takes a token as it is and needs an issue;
`setSeverity` makes a text of it and answers whether that names one. Names come before codes in a text,
a text with a sign is no code, and the empty text is not looked up: just there the two part.
-/

namespace DiagnosticCatalog

open IssueName (fold)

namespace Registry

/-- Both ways to set a level write to the issue that `require` answers with; where it fails, the one
says so and the other answers that nothing was found. -/
inductive Agrees (r : Registry) (token : Token) (level : Value) (s : Severity) : Prop
  | missed {f : Failure} : r.require (.token token) = .error f →
      r.setSeverity token level true = .done r false →
      r.setLevel (.token token) level = .fail r f → Agrees r token level s
  | stored {e : Entry} : r.require (.token token) = .ok e →
      r.setSeverity token level true = (r.write e s true).map (fun _ => true) →
      r.setLevel (.token token) level = r.write e s true → Agrees r token level s

/-- The decimal text of the number means it as a code: no issue with another code has the text for a
name, and as a text with a sign is no code, an issue with the code is found by that name only. -/
structure ReadsAsCode (r : Registry) (n : Int) : Prop where
  named : ∀ e ∈ r.entries, fold e.issue.name = fold (Decimal.intText n) → e.issue.code = n
  signed : n < 0 → ∀ e ∈ r.entries, e.issue.code = n → fold e.issue.name = fold (Decimal.intText n)

/-! ## One piece -/

theorem tokenPieces_of_not_mem {t : Text} (h : .char ',' ∉ t.letters) : tokenPieces t = [t] :=
  if_neg (mt List.contains_iff_mem.1 h)

section

variable {r : Registry} {token : Token} {level : Value} {t : Text} {s : Severity}
  (hq : request token level = .ok (t, s)) (ht : tokenPieces t = [t])

include hq ht

theorem setSeverity_of_piece (r : Registry) (userSet : Bool) :
    r.setSeverity token level userSet = match r.named t with
      | .error e => .fail r (.overlong e)
      | .ok none => .done r false
      | .ok (some e) => (r.write e s userSet).map fun _ => true := by
  simp only [setSeverity, hq, applyToken, ht, applyPieces, applyPiece_eq]
  rcases r.named t with _ | _ | e <;> rfl

theorem setSeverity_eq_done_iff (r : Registry) (userSet : Bool) :
    r.setSeverity token level userSet = .done r false ↔ r.named t = .ok none := by
  rw [setSeverity_of_piece hq ht]
  rcases r.named t with e | _ | e
  · exact iff_of_false (fun h => by cases congrArg Run.outcome h) (fun h => by cases h)
  · exact iff_of_true rfl rfl
  · exact iff_of_false (fun h => by cases congrArg Run.outcome h) (fun h => by cases h)

/-- The notice of a write tells which issue it went to. -/
theorem setSeverity_eq_write_iff (hr : (r.entries.map (·.issue.code)).Nodup) {e : Entry}
    (he : e ∈ r.entries) (userSet : Bool) : r.setSeverity token level userSet =
      (r.write e s userSet).map (fun _ => true) ↔ r.named t = .ok (some e) := by
  rw [setSeverity_of_piece hq ht]
  rcases hn : r.named t with f | _ | f
  · exact iff_of_false (fun h => by cases congrArg Run.outcome h) (fun h => by cases h)
  · exact iff_of_false (fun h => by cases congrArg Run.outcome h) (fun h => by cases h)
  · constructor
    · intro h
      have hlog : [Notice.stored f.issue s userSet] = [.stored e.issue s userSet] :=
        congrArg Run.log h
      have hissue : f.issue = e.issue := by simpa using hlog
      rw [eq_of_code hr (mem_of_named hn) he (congrArg Issue.code hissue)]
    · intro h
      obtain rfl := Option.some.inj (Except.ok.inj h)
      rfl

/-- The two agree just if the text names what the token resolves to. -/
theorem agrees_iff (hr : (r.entries.map (·.issue.code)).Nodup) {e? : Option Entry}
    (he : r.resolve token = .ok e?) : r.Agrees token level s ↔ r.named t = .ok e? := by
  have hlevel : requestedSeverity level = .ok s := (request_eq_ok_iff.1 hq).2
  cases e? with
  | none =>
      have hrequire : r.require (.token token) = .error (.unknown (.token token)) := by
        rw [require, he]
      rw [← setSeverity_eq_done_iff hq ht r true]
      constructor
      · intro h
        cases h with
        | missed _ hmissed _ => exact hmissed
        | stored hfound _ _ => cases hrequire.symm.trans hfound
      · intro hmissed
        exact .missed hrequire hmissed (by simp only [setLevel, hlevel, hrequire])
  | some e =>
      have hrequire := require_of_resolve he
      rw [← setSeverity_eq_write_iff hq ht hr (mem_of_resolve he) true]
      constructor
      · intro h
        cases h with
        | missed hfault _ _ => cases hrequire.symm.trans hfault
        | stored hfound hstored _ =>
            obtain rfl := Except.ok.inj (hrequire.symm.trans hfound)
            exact hstored
      · intro hstored
        exact .stored hrequire hstored (by simp only [setLevel, hlevel, hrequire])

end

/-! ## Texts and numbers -/

theorem Reached.faithful {ds : List Declaration} {r : Registry} (h : Reached ds r) :
    ∃ x, Faithful ds x r := by
  obtain ⟨hs, ws, rfl⟩ := h.eq_commit
  exact ⟨_, faithful_commit_build hs ws⟩

/-- Digits have no case, so they are a name in any case only as they stand. -/
theorem eq_intText_of_fold {name : String} {n : Nat} (h : fold name = fold (Decimal.intText n)) :
    name = Decimal.intText n := by
  have hdigits : Decimal.isNumeral (Decimal.intText n).toList = true :=
    toList_intText n ▸ Decimal.isNumeral_digits n
  have hlower : Text.lowerChars name.toList = Text.lowerChars (Decimal.intText n).toList :=
    String.ofList_inj.1 h
  rw [Text.lowerChars_of_isNumeral hdigits] at hlower
  have hnumeral : Decimal.isNumeral name.toList = true := by
    rw [← Text.isNumeral_lowerChars, hlower, hdigits]
  rw [Text.lowerChars_of_isNumeral hnumeral] at hlower
  exact String.toList_inj.1 hlower

/-- A number that can be written has not too many digits. -/
theorem not_overlong_decimalToken {n : Int} (hn : Decimal.isWritable n = true) :
    ¬(decimalToken n).Overlong := by
  rintro ⟨s, hs, hnumeral, hlong⟩
  rw [decimalToken, Text.string?_ofString, Option.mem_some_iff] at hs
  rw [← hs, toList_intText, strip_intDigits] at hnumeral hlong
  cases n with
  | ofNat n =>
      have hread := Decimal.readNumeral_digits hn
      have hdigits : Decimal.digitLimit < (Decimal.digits n).length := hlong
      rw [Decimal.readNumeral, if_pos hdigits] at hread
      cases hread
  | negSucc n => cases hnumeral

section

variable {ds : List Declaration} {x : Index} {r : Registry} (h : Faithful ds x r)

include h

theorem Faithful.byFoldedName?_eq_some_iff {name : String} {e : Entry} :
    r.byFoldedName? (fold name) = some e ↔ e ∈ r.entries ∧ fold e.issue.name = fold name := by
  constructor
  · intro he
    exact ⟨List.mem_of_find?_eq_some he, by simpa using List.find?_some he⟩
  · rintro ⟨he, hfold⟩
    rw [← hfold]
    exact h.byFoldedName? e he

theorem Faithful.byFoldedName?_of_byName? {name : String} {e : Entry}
    (he : r.byName? name = some e) : r.byFoldedName? (fold name) = some e := by
  obtain ⟨hmem, rfl⟩ := (h.byName? name e).1 he
  exact h.byFoldedName? e hmem

theorem Faithful.resolveText_empty :
    r.resolveText (.ofString "") = .ok (r.byFoldedName? (fold "")) := by
  rw [resolveText, Text.string?_ofString]
  change r.resolveString "" = _
  rw [resolveString]
  cases he : r.byName? "" with
  | some e => rw [h.byFoldedName?_of_byName? he]
  | none => rfl

/-- The decimal text of a number means the issue that has it for a name; failing that, a text without
a sign means the number. -/
theorem Faithful.resolveText_decimalToken {n : Int} (hn : Decimal.isWritable n = true) :
    r.resolveText (decimalToken n) = .ok ((r.byFoldedName? (fold (Decimal.intText n))).or
      (if n < 0 then none else r.byCode? n)) := by
  cases hname : r.byName? (Decimal.intText n) with
  | some e =>
      rw [Registry.resolveText_decimalToken, resolveString, hname, h.byFoldedName?_of_byName? hname]
      rfl
  | none =>
      cases n with
      | ofNat n =>
          have hfold : r.byFoldedName? (fold (Decimal.intText n)) = none := by
            rw [Option.eq_none_iff_forall_ne_some]
            intro e he
            obtain ⟨hmem, hfold⟩ := h.byFoldedName?_eq_some_iff.1 he
            cases hname.symm.trans ((h.byName? _ e).2 ⟨hmem, eq_intText_of_fold hfold⟩)
          have hsign : ¬((n : Int) < 0) := Int.not_lt.2 (Int.natCast_nonneg n)
          change r.resolveText (decimalToken n) = .ok ((r.byFoldedName? (fold (Decimal.intText n))).or
            (if (n : Int) < 0 then none else r.byCode? n))
          rw [resolveText_decimalToken_eq r hn hname, hfold, if_neg hsign, Option.none_or]
      | negSucc n =>
          have hdash : Decimal.isNumeral (Decimal.intDigits (Int.negSucc n)) = false := rfl
          rw [Registry.resolveText_decimalToken, resolveString, hname, toList_intText,
            strip_intDigits]
          simp only [hdash, Bool.false_eq_true, if_false, Int.negSucc_lt_zero, if_true,
            Option.or_none, Decimal.intText]

theorem Faithful.resolveText_empty_eq_none_iff :
    r.resolveText (.ofString "") = .ok none ↔ ∀ e ∈ r.entries, e.issue.name ≠ "" := by
  rw [h.resolveText_empty, Except.ok.injEq, Option.eq_none_iff_forall_ne_some]
  constructor
  · intro hnone e he hname
    exact hnone e (h.byFoldedName?_eq_some_iff.2 ⟨he, congrArg fold hname⟩)
  · intro hnames e he
    obtain ⟨hmem, hfold⟩ := h.byFoldedName?_eq_some_iff.1 he
    have hlower : Text.lowerChars e.issue.name.toList = [] := String.ofList_inj.1 hfold
    exact hnames e hmem (String.toList_eq_nil_iff.1 (Text.lowerChars_eq_nil_iff.1 hlower))

theorem Faithful.resolveText_decimalToken_eq_iff {n : Int} (hn : Decimal.isWritable n = true) :
    r.resolveText (decimalToken n) = .ok (r.byCode? n) ↔ r.ReadsAsCode n := by
  rw [h.resolveText_decimalToken hn, Except.ok.injEq]
  cases hname : r.byFoldedName? (fold (Decimal.intText n)) with
  | some e =>
      -- Folded names are distinct, so the text names no other issue than this one.
      obtain ⟨hmem, hfold⟩ := h.byFoldedName?_eq_some_iff.1 hname
      have honly : ∀ f ∈ r.entries, fold f.issue.name = fold (Decimal.intText n) → f = e :=
        fun f hf hf' =>
          Option.some.inj ((h.byFoldedName?_eq_some_iff.2 ⟨hf, hf'⟩).symm.trans hname)
      rw [Option.some_or, eq_comm, h.byCode?]
      constructor
      · rintro ⟨_, hcode⟩
        refine ⟨fun f hf hf' => honly f hf hf' ▸ hcode, fun _ f hf hcode' => ?_⟩
        have hsome : some f = some e :=
          ((h.byCode? n f).2 ⟨hf, hcode'⟩).symm.trans ((h.byCode? n e).2 ⟨hmem, hcode⟩)
        rw [Option.some.inj hsome, hfold]
      · exact fun hreads => ⟨hmem, hreads.named e hmem hfold⟩
  | none =>
      have hnone : ∀ f ∈ r.entries, fold f.issue.name ≠ fold (Decimal.intText n) :=
        fun f hf hf' => by cases hname.symm.trans (h.byFoldedName?_eq_some_iff.2 ⟨hf, hf'⟩)
      rw [Option.none_or]
      -- Without a name the sign decides: a negative number must then be the code of no issue.
      by_cases hsign : n < 0
      · rw [if_pos hsign, eq_comm, Option.eq_none_iff_forall_ne_some]
        constructor
        · intro hcode
          exact ⟨fun f hf hf' => absurd hf' (hnone f hf),
            fun _ f hf hcode' => absurd ((h.byCode? n f).2 ⟨hf, hcode'⟩) (hcode f)⟩
        · intro hreads f hf
          obtain ⟨hmem, hcode⟩ := (h.byCode? n f).1 hf
          exact hnone f hmem (hreads.signed hsign f hmem hcode)
      · rw [if_neg hsign]
        exact iff_of_true rfl ⟨fun f hf hf' => absurd hf' (hnone f hf), fun hneg => absurd hneg hsign⟩

end

/-! ## Agreement -/

section

variable {ds : List Declaration} {r : Registry} (h : Reached ds r) {level : Value} {s : Severity}
  (hlevel : requestedSeverity level = .ok s)

include h hlevel

theorem Reached.agrees_text_iff {t : Text} (hcomma : .char ',' ∉ t.letters) (hlong : ¬t.Overlong) :
    r.Agrees (.text t) level s ↔ (t = .ofString "" → ∀ e ∈ r.entries, e.issue.name ≠ "") := by
  obtain ⟨x, hx⟩ := h.faithful
  have hq : request (.text t) level = .ok (t, s) := request_eq_ok_iff.2 ⟨rfl, hlevel⟩
  by_cases hempty : t = .ofString ""
  · subst hempty
    have hnamed : r.named (.ofString "") = .ok none := rfl
    rw [agrees_iff hq (tokenPieces_of_not_mem hcomma) h.resolvable.codes hx.resolveText_empty, hnamed,
      ← hx.resolveText_empty, eq_comm, hx.resolveText_empty_eq_none_iff]
    exact ⟨fun hnames _ => hnames, fun hnames => hnames rfl⟩
  · have hnamed : r.named t = r.resolveText t := by
      refine if_neg fun hletters => hempty ?_
      rw [Text.mk.injEq]
      exact List.isEmpty_iff.1 hletters
    obtain ⟨e?, he⟩ := exists_of_isOk (isOk_named_iff.2 fun hstops => hlong hstops.1)
    rw [agrees_iff hq (tokenPieces_of_not_mem hcomma) h.resolvable.codes (hnamed ▸ he)]
    exact iff_of_true he fun h => absurd h hempty

theorem Reached.agrees_code_iff {n : Int} (hn : Decimal.isWritable n = true) :
    r.Agrees (.code n) level s ↔ r.ReadsAsCode n := by
  obtain ⟨x, hx⟩ := h.faithful
  have hq : request (.code n) level = .ok (decimalToken n, s) :=
    request_eq_ok_iff.2 ⟨Token.spelling_code hn, hlevel⟩
  rw [agrees_iff hq (tokenPieces_decimalToken n) h.resolvable.codes rfl, named,
    isEmpty_decimalToken, if_neg Bool.false_ne_true, hx.resolveText_decimalToken_eq_iff hn]

end

/-- The one entry is written, and every other stays as it is. -/
theorem entries_write {r : Registry} (hr : (r.entries.map (·.issue.code)).Nodup) {e : Entry}
    (he : e ∈ r.entries) (s : Severity) (userSet : Bool) :
    (r.write e s userSet).registry.entries =
      r.entries.map fun f => if f = e then ⟨e.issue, .explicit s, userSet⟩ else f := by
  refine List.map_congr_left fun f hf => ?_
  by_cases hfe : f = e
  · rw [if_pos hfe, if_pos (congrArg (·.issue.code) hfe), hfe]
  · rw [if_neg hfe, if_neg fun hcode => hfe (eq_of_code hr hf he hcode)]

/-- In every state from accepted declarations, a text without commas that has not too many digits is
set in either way with the same effect, on the one issue that it leads to, unless it is empty and an
issue has the empty name: `setSeverity` never finds that one. A whole number is, just if its decimal
text reads as the code; `setSeverity` goes by that text. -/
theorem Reached.setSeverity_setLevel {ds : List Declaration} {r : Registry} (h : Reached ds r)
    {level : Value} {s : Severity} (hlevel : requestedSeverity level = .ok s) :
    (∀ t : Text, .char ',' ∉ t.letters → ¬t.Overlong → (r.Agrees (.text t) level s ↔
      (t = .ofString "" → ∀ e ∈ r.entries, e.issue.name ≠ ""))) ∧
    (∀ n, Decimal.isWritable n = true → (r.Agrees (.code n) level s ↔ r.ReadsAsCode n)) ∧
    (∀ e ∈ r.entries, (r.write e s true).outcome = .ok () ∧
      (r.write e s true).registry.entries =
        r.entries.map fun f => if f = e then ⟨e.issue, .explicit s, true⟩ else f) ∧
    r.setSeverity (.text (.ofString "")) level true = .done r false ∧
    ∀ n, Decimal.isWritable n = true → r.setSeverity (.code n) level true =
      r.setSeverity (.text (decimalToken n)) level true := by
  refine ⟨fun t => h.agrees_text_iff hlevel, fun n => h.agrees_code_iff hlevel,
    fun e he => ⟨rfl, entries_write h.resolvable.codes he s true⟩, ?empty, fun n hn => ?number⟩
  case empty =>
    have hq : request (.text (.ofString "")) level = .ok (.ofString "", s) :=
      request_eq_ok_iff.2 ⟨rfl, hlevel⟩
    exact (setSeverity_eq_done_iff hq rfl r true).2 rfl
  case number =>
    have hq : request (.code n) level = request (.text (decimalToken n)) level := by
      rw [request, request, Token.spelling_code hn]
      rfl
    rw [setSeverity, setSeverity, hq]

/-- Names and codes that the check accepts: an issue named by the code of another one, a code with a
sign, and the empty name. -/
def oddDeclarations : List Declaration := [
  leveled 7 "ADDED_PACKAGE" .warning .compatibility none,
  leveled 40 "7" .info .compatibility none,
  leveled (-5) "ADDED_CLASS" .warning .compatibility none,
  leveled 1 "_" .lint .compatibility none]

theorem ofDeclarations_odd : ofDeclarations oddDeclarations = .ok (build oddDeclarations) := by
  decide +kernel

theorem Reached.setSeverity_setLevel_odd :
    (build oddDeclarations).Agrees (.code 40) (.text "Warn") .warning ∧
      (build oddDeclarations).Agrees (.text " -5") (.text "Warn") .warning ∧
      ¬(build oddDeclarations).Agrees (.code 7) (.text "Warn") .warning := by
  have h : Reached oddDeclarations (build oddDeclarations) := ⟨_, [], ofDeclarations_odd, rfl⟩
  have hlevel : requestedSeverity (.text "Warn") = .ok .warning :=
    toOption_eq_some.1 (by decide +kernel)
  obtain ⟨htext, hcode, _⟩ := h.setSeverity_setLevel hlevel
  refine ⟨(hcode 40 (by decide +kernel)).2 ⟨by decide +kernel, by decide⟩,
    (htext " -5" (by decide +kernel) (by decide +kernel)).2 fun ht => absurd ht (by decide +kernel),
    fun hagrees => ?_⟩
  have hnames := ((hcode 7 (by decide +kernel)).1 hagrees).named
  exact absurd hnames (by decide +kernel)

/-- A number is taken for the name of another issue; a code with a sign and the empty name lead to an
issue, but not where tokens are text. -/
theorem setSeverity_setLevel_ne : ofDeclarations oddDeclarations = .ok (build oddDeclarations) ∧
    ((build oddDeclarations).require (.token (.code 7))).isOk = true ∧
    ((build oddDeclarations).setSeverity (.code 7) (.severity .error) true).registry ≠
      ((build oddDeclarations).setLevel (.token (.code 7)) (.severity .error)).registry ∧
    ∀ token ∈ [Token.code (-5), .text (.ofString "")],
      ((build oddDeclarations).require (.token token)).isOk = true ∧
        ((build oddDeclarations).setSeverity token (.severity .error) true).outcome.toOption =
          some false :=
  ⟨ofDeclarations_odd, by decide +kernel, by decide +kernel, by decide +kernel⟩

end Registry

end DiagnosticCatalog
