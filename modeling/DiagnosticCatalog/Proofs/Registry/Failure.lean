import DiagnosticCatalog.Proofs.Registry.Batch
import DiagnosticCatalog.Proofs.Standard
/-!
How a batch fails. Faults of levels and of tokens are found before the first write. After that only a
piece that is a run of too many digits can stop a batch: what stands before it is stored, and nothing
is told of the pieces that were missed.
-/

namespace DiagnosticCatalog

/-- Without the blanks around it the text is a run of digits, too many of them to be read. -/
def Text.Overlong (t : Text) : Prop :=
  ∃ s ∈ t.string?, Decimal.isNumeral (Text.strip s.toList) = true ∧
    Decimal.digitLimit < (Text.strip s.toList).length

instance (t : Text) : Decidable t.Overlong :=
  inferInstanceAs (Decidable (∃ s ∈ t.string?, Decimal.isNumeral (Text.strip s.toList) = true ∧
    Decimal.digitLimit < (Text.strip s.toList).length))

/-- What can be stored by request: a severity, or a text that is the word for one. -/
inductive Value.Settable : Value → Prop
  | severity (s : Severity) : Settable (.severity s)
  | word {t : Text} {s : Severity} : Severity.parse t = .ok s → Settable (.text t)

theorem Value.settable_iff {v : Value} : v.Settable ↔ ∃ s, requestedSeverity v = .ok s := by
  constructor
  · intro h
    cases h with
    | severity s => exact ⟨s, rfl⟩
    | @word t s ht => exact ⟨s, by rw [requestedSeverity, ht]; rfl⟩
  · rintro ⟨s, hs⟩
    cases v with
    | severity s => exact .severity s
    | text t =>
        rw [requestedSeverity] at hs
        cases ht : Severity.parse t with
        | error e =>
            rw [ht] at hs
            cases hs
        | ok s => exact .word ht
    | _ => cases hs

/-- A level that cannot be stored is told of if it can be written. -/
theorem Value.requestedSeverity_eq_error {v : Value} (h : ¬v.Settable) :
    ∃ f, requestedSeverity v = .error f ∧ ((∃ e, f = .level e) ↔ v.isWritable = true) := by
  have hother : ((∃ e, Failure.noSeverity v = .level e) ↔ v.isWritable = true) := by
    rw [Failure.noSeverity]
    cases v.isWritable <;> simp
  cases v with
  | inherit => exact ⟨_, rfl, fun _ => rfl, fun _ => ⟨_, rfl⟩⟩
  | severity s => exact absurd (.severity s) h
  | text t =>
      rw [requestedSeverity]
      cases ht : Severity.parse t with
      | error e => exact ⟨_, rfl, fun _ => rfl, fun _ => ⟨_, rfl⟩⟩
      | ok s => exact absurd (.word ht) h
  | _ => exact ⟨_, rfl, hother⟩

namespace Registry

/-! ## Requests -/

theorem requestedBatch_cons (q : Token × Value) (qs : List (Token × Value)) :
    requestedBatch (q :: qs) = (request q.1 q.2).bind fun p =>
      (requestedBatch qs).map (p :: ·) := by
  rw [requestedBatch, List.mapM_cons]
  cases request q.1 q.2 with
  | error e => rfl
  | ok p =>
      change (requestedBatch qs >>= fun ps => pure (p :: ps)) = _
      cases requestedBatch qs <;> rfl

theorem requestedBatch_eq_ok_iff {requests : List (Token × Value)} {batch : List (Text × Severity)} :
    requestedBatch requests = .ok batch ↔
      List.Forall₂ (fun q p => request q.1 q.2 = .ok p) requests batch := by
  induction requests generalizing batch with
  | nil =>
      rw [List.forall₂_nil_left_iff]
      exact ⟨fun h => (Except.ok.inj h).symm, fun h => h ▸ rfl⟩
  | cons q qs ih =>
      rw [requestedBatch_cons, List.forall₂_cons_left_iff]
      simp only [← ih]
      cases request q.1 q.2 with
      | error e => simp [Except.bind]
      | ok p =>
          cases requestedBatch qs with
          | error e => simp [Except.bind, Except.map]
          | ok ps => simp [Except.bind, Except.map, eq_comm]

/-- The first request that is at fault decides what becomes of them all. -/
theorem first_request_of_error {requests : List (Token × Value)} {f : Failure}
    (h : requestedBatch requests = .error f) : ∃ before q after, requests = before ++ q :: after ∧
      (∀ p ∈ before, ∃ b, request p.1 p.2 = .ok b) ∧ request q.1 q.2 = .error f := by
  induction requests with
  | nil => cases h
  | cons q qs ih =>
      rw [requestedBatch_cons] at h
      cases hq : request q.1 q.2 with
      | error e =>
          rw [hq] at h
          obtain rfl := Except.error.inj h
          exact ⟨[], q, qs, rfl, List.forall_mem_nil _, hq⟩
      | ok p =>
          rw [hq] at h
          cases hqs : requestedBatch qs with
          | error e =>
              rw [hqs] at h
              obtain rfl := Except.error.inj h
              obtain ⟨before, q', after, rfl, hbefore, hfault⟩ := ih hqs
              exact ⟨q :: before, q', after, rfl, List.forall_mem_cons.2 ⟨⟨p, hq⟩, hbefore⟩, hfault⟩
          | ok ps =>
              rw [hqs] at h
              cases h

theorem exists_requestedBatch {requests : List (Token × Value)}
    (h : ∀ q ∈ requests, ∃ p, request q.1 q.2 = .ok p) :
    ∃ batch, requestedBatch requests = .ok batch := by
  cases hb : requestedBatch requests with
  | ok batch => exact ⟨batch, rfl⟩
  | error f =>
      obtain ⟨before, q, after, rfl, _, hfault⟩ := first_request_of_error hb
      obtain ⟨p, hp⟩ := h q (List.mem_append_right _ List.mem_cons_self)
      cases hfault.symm.trans hp

theorem request_eq_ok_iff {token : Token} {level : Value} {p : Text × Severity} :
    request token level = .ok p ↔
      token.spelling = .ok p.1 ∧ requestedSeverity level = .ok p.2 := by
  rw [request]
  cases token.spelling with
  | error e => simp
  | ok t =>
      cases requestedSeverity level with
      | error e => simp
      | ok s => simp [Prod.ext_iff]

/-- Of two faults that of the token is told. -/
theorem request_eq_error_iff {token : Token} {level : Value} {f : Failure} :
    request token level = .error f ↔
      (∃ e, token.spelling = .error e ∧ f = .overlong e) ∨
      (∃ t, token.spelling = .ok t) ∧ requestedSeverity level = .error f := by
  rw [request]
  cases token.spelling with
  | error e => simp [eq_comm]
  | ok t =>
      cases requestedSeverity level with
      | error e => simp [eq_comm]
      | ok s => simp

theorem request_of_mem {requests : List (Token × Value)} {batch : List (Text × Severity)}
    (h : requestedBatch requests = .ok batch) {q : Token × Value} (hq : q ∈ requests) :
    ∃ p, request q.1 q.2 = .ok p := by
  have hpairs : List.Forall₂ (fun q p => (∃ p, request q.1 q.2 = .ok p) ∧ request q.1 q.2 = .ok p)
      requests batch := (requestedBatch_eq_ok_iff.1 h).imp fun _ p hp => ⟨⟨p, hp⟩, hp⟩
  exact ((List.forall₂_and_left _ _).1 hpairs).1 q hq

theorem exists_request_of_mem {requests : List (Token × Value)} {batch : List (Text × Severity)}
    (h : requestedBatch requests = .ok batch) {p : Text × Severity} (hp : p ∈ batch) :
    ∃ q ∈ requests, request q.1 q.2 = .ok p := by
  have hmem : List.Forall₂ (fun q p => q ∈ requests ∧ request q.1 q.2 = .ok p) requests batch :=
    (List.forall₂_and_left _ _).2 ⟨fun _ hq => hq, requestedBatch_eq_ok_iff.1 h⟩
  have hpairs : List.Forall₂ (fun p q => (∃ q ∈ requests, request q.1 q.2 = .ok p) ∧ q ∈ requests)
      batch requests := hmem.flip.imp fun _ q hq => ⟨⟨q, hq⟩, hq.1⟩
  exact ((List.forall₂_and_left _ _).1 hpairs).1 p hp

/-! ## Pieces that stop a batch -/

/-- A piece with too many digits to be a code, which is not the name of an issue either. -/
def Stops (r : Registry) (piece : Text) : Prop :=
  piece.Overlong ∧ ∀ s ∈ piece.string?, r.byName? s = none

instance (r : Registry) (piece : Text) : Decidable (r.Stops piece) :=
  inferInstanceAs (Decidable (piece.Overlong ∧ ∀ s ∈ piece.string?, r.byName? s = none))

theorem resolveString_eq_error_iff {r : Registry} {s : String} {e : Decimal.Overlong} :
    r.resolveString s = .error e ↔ r.byName? s = none ∧
      Decimal.isNumeral (Text.strip s.toList) = true ∧
      Decimal.digitLimit < (Text.strip s.toList).length ∧
      .reading (Text.strip s.toList).length = e := by
  rw [resolveString]
  cases r.byName? s with
  | some f => simp
  | none =>
      by_cases hn : Decimal.isNumeral (Text.strip s.toList) = true
      · by_cases hl : Decimal.digitLimit < (Text.strip s.toList).length
        · simp [hn, Decimal.readNumeral, hl]
        · simp [hn, Decimal.readNumeral, hl]
      · simp [hn]

theorem named_eq_error_iff {r : Registry} {piece : Text} {e : Decimal.Overlong} :
    r.named piece = .error e ↔ ∃ s ∈ piece.string?, r.resolveString s = .error e := by
  rw [named]
  split
  · rename_i hempty
    -- The empty text is no run of digits, so it would not stop a look-up either.
    have hpiece : piece = .ofString "" := by
      rw [Text.mk.injEq]
      exact List.isEmpty_iff.1 hempty
    simp [hpiece, resolveString_eq_error_iff, Text.strip, Text.stripOf, Decimal.isNumeral]
  · rw [resolveText]
    cases piece.string? with
    | none => simp
    | some s => simp

theorem stops_iff {r : Registry} {piece : Text} :
    r.Stops piece ↔ ∃ n, r.named piece = .error (.reading n) := by
  simp only [Stops, Text.Overlong, named_eq_error_iff, resolveString_eq_error_iff]
  cases piece.string? with
  | none => simp
  | some s => simp [and_comm]

theorem isOk_named_iff {r : Registry} {piece : Text} :
    (r.named piece).isOk = true ↔ ¬r.Stops piece := by
  rw [stops_iff]
  cases hn : r.named piece with
  | ok e? => simp [Except.isOk, Except.toBool]
  | error e =>
      obtain ⟨s, _, he⟩ := named_eq_error_iff.1 hn
      obtain ⟨_, _, _, rfl⟩ := resolveString_eq_error_iff.1 he
      simp [Except.isOk, Except.toBool]

theorem stops_commit (r : Registry) (ws : List Write) (piece : Text) :
    (r.commit ws).Stops piece ↔ r.Stops piece := by
  simp only [Stops, commit_eq_update, byName?_update (Entry.after_issue ws), Option.map_eq_none_iff]

theorem storePieces_eq_commit (r : Registry) (userSet : Bool) (qs : List (Text × Severity)) :
    ∃ ws, r.storePieces userSet qs = r.commit ws := by
  induction qs generalizing r with
  | nil => exact ⟨[], rfl⟩
  | cons q qs ih =>
      rw [storePieces, List.foldl_cons]
      cases r.issueNamed? q.1 with
      | none => exact ih r
      | some i =>
          obtain ⟨ws, hws⟩ := ih (r.store i.code q.2 userSet)
          exact ⟨⟨i.code, q.2, userSet⟩ :: ws, hws⟩

/-! ## Batches that come to their end, and batches that are stopped -/

theorem isOk_map {α β : Type} (x : Run α) (f : α → β) :
    (x.map f).outcome.isOk = x.outcome.isOk := by
  rw [Run.map]
  cases x.outcome <;> rfl

theorem isOk_applyEach (r : Registry) (userSet : Bool) (qs : List (Text × Severity)) :
    (r.applyEach userSet qs).outcome.isOk = true ↔ ∀ q ∈ qs, ¬r.Stops q.1 := by
  induction qs generalizing r with
  | nil => simp [applyEach, Run.done, Except.isOk, Except.toBool]
  | cons q qs ih =>
      obtain ⟨piece, s⟩ := q
      rw [applyEach, applyPiece_eq, List.forall_mem_cons, ← isOk_named_iff]
      rcases r.named piece with e | _ | e
      · simp [Run.fail, Run.andThen, Except.isOk, Except.toBool]
      · rw [Run.done_andThen, isOk_map, ih]
        simp [Except.isOk, Except.toBool]
      · simp only [write_andThen, map_nil_append, ih]
        have hstore : ∀ q : Text × Severity,
            (r.store e.issue.code s userSet).Stops q.1 ↔ r.Stops q.1 := fun q =>
          stops_commit r [⟨e.issue.code, s, userSet⟩] q.1
        simp [hstore, Except.isOk, Except.toBool]

theorem applyEach_of_not_stops {r : Registry} {qs : List (Text × Severity)}
    (h : ∀ q ∈ qs, ¬r.Stops q.1) (userSet : Bool) : r.applyEach userSet qs =
      ⟨r.storePieces userSet qs, r.storedNotices userSet qs, .ok (r.missedPieces qs)⟩ := by
  obtain ⟨missed, hmissed⟩ := exists_of_isOk ((isOk_applyEach r userSet qs).2 h)
  exact applyEach_of_ok hmissed

/-- The first piece that stops a batch leaves what stands before it applied. -/
theorem applyEach_of_stops {r : Registry} {qs before after : List (Text × Severity)}
    {q : Text × Severity} (hqs : qs = before ++ q :: after)
    (hbefore : ∀ p ∈ before, ¬r.Stops p.1) (hq : r.Stops q.1) (userSet : Bool) :
    ∃ n, r.applyEach userSet qs =
      ⟨r.storePieces userSet before, r.storedNotices userSet before,
        .error (.overlong (.reading n))⟩ := by
  -- The piece is looked up in the state behind the others, which differs from `r` in levels only.
  obtain ⟨ws, hws⟩ := storePieces_eq_commit r userSet before
  rw [← stops_commit r ws, ← hws] at hq
  obtain ⟨n, hn⟩ := stops_iff.1 hq
  have hrest : (r.storePieces userSet before).applyEach userSet (q :: after) =
      .fail (r.storePieces userSet before) (.overlong (.reading n)) := by
    rw [applyEach, applyPiece_eq, hn]
    rfl
  refine ⟨n, ?_⟩
  rw [hqs, applyEach_append, applyEach_of_not_stops hbefore]
  simp only [Run.andThen, hrest, Run.fail, Run.map, Except.map, List.append_nil]

theorem exists_first_stop {r : Registry} {qs : List (Text × Severity)}
    (h : ¬∀ q ∈ qs, ¬r.Stops q.1) : ∃ before q after, qs = before ++ q :: after ∧
      (∀ p ∈ before, ¬r.Stops p.1) ∧ r.Stops q.1 := by
  cases hf : qs.find? fun q => r.Stops q.1 with
  | none => exact absurd (by simpa using hf) h
  | some q =>
      obtain ⟨hq, before, after, hqs, hbefore⟩ := List.find?_eq_some_iff_append.1 hf
      exact ⟨before, q, after, hqs, fun p hp => by simpa using hbefore p hp, of_decide_eq_true hq⟩

/-- Once the requests are checked a number with too many digits is all that can go wrong. -/
theorem overlong_of_applyEach {r : Registry} {userSet : Bool} {qs : List (Text × Severity)}
    {f : Failure} (h : (r.applyEach userSet qs).outcome = .error f) : ∃ e, f = .overlong e := by
  have hstop : ¬∀ q ∈ qs, ¬r.Stops q.1 := by
    rw [← isOk_applyEach r userSet, h]
    exact Bool.false_ne_true
  obtain ⟨before, q, after, hqs, hbefore, hq⟩ := exists_first_stop hstop
  obtain ⟨n, hn⟩ := applyEach_of_stops hqs hbefore hq userSet
  rw [hn] at h
  exact ⟨_, (Except.error.inj h).symm⟩

/-! ## Tokens that are texts -/

/-- Requests whose tokens are texts. -/
def textual (requests : List (Text × Value)) : List (Token × Value) :=
  requests.map fun q => (.text q.1, q.2)

theorem tokens_of_requestedBatch {requests : List (Text × Value)} {batch : List (Text × Severity)}
    (h : requestedBatch (textual requests) = .ok batch) :
    batch.map (·.1) = requests.map (·.1) := by
  have hpairs := requestedBatch_eq_ok_iff.1 h
  rw [textual, List.forall₂_map_left_iff] at hpairs
  have htokens : List.Forall₂ (· = ·) (requests.map (·.1)) (batch.map (·.1)) := by
    rw [List.forall₂_map_left_iff, List.forall₂_map_right_iff]
    refine hpairs.imp fun q p hp => ?_
    have hspelling : (Token.text q.1).spelling = .ok p.1 := (request_eq_ok_iff.1 hp).1
    exact Except.ok.inj hspelling
  rw [List.forall₂_eq_eq_eq] at htokens
  exact htokens.symm

theorem exists_requestedBatch_textual {requests : List (Text × Value)}
    (h : ∀ q ∈ requests, q.2.Settable) : ∃ batch, requestedBatch (textual requests) = .ok batch := by
  refine exists_requestedBatch fun q hq => ?_
  obtain ⟨⟨t, level⟩, hmem, rfl⟩ := List.mem_map.1 hq
  obtain ⟨s, hs⟩ := Value.settable_iff.1 (h _ hmem)
  exact ⟨(t, s), request_eq_ok_iff.2 ⟨rfl, hs⟩⟩

theorem forall_requestPieces (P : Text → Prop) (batch : List (Text × Severity)) :
    (∀ q ∈ requestPieces batch, P q.1) ↔ ∀ t ∈ batch.map (·.1), ∀ piece ∈ tokenPieces t, P piece := by
  simp only [requestPieces, List.mem_flatMap, List.mem_map]
  constructor
  · rintro h _ ⟨q, hq, rfl⟩ piece hpiece
    exact h (piece, q.2) ⟨q, hq, piece, hpiece, rfl⟩
  · rintro h _ ⟨q, hq, piece, hpiece, rfl⟩
    exact h q.1 ⟨q, hq, rfl⟩ piece hpiece

theorem isOk_configure {requests : List (Token × Value)} {batch : List (Text × Severity)}
    (h : requestedBatch requests = .ok batch) (r : Registry) (userSet : Bool) :
    (r.configure requests userSet).outcome.isOk = true ↔ ∀ q ∈ requestPieces batch, ¬r.Stops q.1 := by
  rw [configure_eq h, Run.outcome_noting, isOk_applyEach]

theorem isOk_configure_textual (r : Registry) (userSet : Bool) {requests : List (Text × Value)}
    (hlevels : ∀ q ∈ requests, q.2.Settable) :
    (r.configure (textual requests) userSet).outcome.isOk = true ↔
      ∀ q ∈ requests, ∀ piece ∈ tokenPieces q.1, ¬r.Stops piece := by
  obtain ⟨batch, hbatch⟩ := exists_requestedBatch_textual hlevels
  rw [isOk_configure hbatch, forall_requestPieces fun piece => ¬r.Stops piece,
    tokens_of_requestedBatch hbatch, List.forall_mem_map]

/-- A batch of texts with settable levels comes to its end just if no piece stops it, and then it
has stored every piece that names an issue and answers with the others. Else the first piece that
stops it leaves what stands before it stored, and nothing is told of what was missed there. -/
theorem configure_textual (r : Registry) (userSet : Bool) {requests : List (Text × Value)}
    (hlevels : ∀ q ∈ requests, q.2.Settable) :
    ((r.configure (textual requests) userSet).outcome.isOk = true ↔
      ∀ q ∈ requests, ∀ piece ∈ tokenPieces q.1, ¬r.Stops piece) ∧
    (∃ batch, requestedBatch (textual requests) = .ok batch ∧
      ((∀ q ∈ requestPieces batch, ¬r.Stops q.1) →
        r.configure (textual requests) userSet = r.flatRun userSet (requestPieces batch)) ∧
      ∀ before q after, requestPieces batch = before ++ q :: after →
        (∀ p ∈ before, ¬r.Stops p.1) → r.Stops q.1 →
        ∃ n, r.configure (textual requests) userSet =
          ⟨r.storePieces userSet before, r.storedNotices userSet before,
            .error (.overlong (.reading n))⟩) ∧
    ∀ q ∈ requests, ((r.setSeverity (.text q.1) q.2 userSet).outcome.isOk = true ↔
      ∀ piece ∈ tokenPieces q.1, ¬r.Stops piece) := by
  refine ⟨isOk_configure_textual r userSet hlevels, ?_, fun q hq => ?_⟩
  · obtain ⟨batch, hbatch⟩ := exists_requestedBatch_textual hlevels
    refine ⟨batch, hbatch, fun h => ?_, fun before q after hpieces hbefore hq => ?_⟩
    · rw [configure_eq hbatch, applyEach_of_not_stops h]
      rfl
    · obtain ⟨n, hn⟩ := applyEach_of_stops hpieces hbefore hq userSet
      refine ⟨n, ?_⟩
      rw [configure_eq hbatch, hn]
      rfl
  · have hlevel : ∀ p ∈ [q], p.2.Settable := by simpa using hlevels q hq
    have hsingle := isOk_configure_textual r userSet hlevel
    have hbatch : textual [q] = [(.text q.1, q.2)] := rfl
    rw [hbatch] at hsingle
    rw [(setSeverity_eq_configure r (.text q.1) q.2 userSet).2]
    simp only [List.mem_singleton, forall_eq] at hsingle
    rw [← hsingle]
    cases (r.configure [(.text q.1, q.2)] userSet).outcome <;> rfl

/-- Two pieces name no issue, and the batch goes on behind them. -/
theorem configure_textual_sample :
    (sampleState.configure (textual [(" 3 , nosuch,,addedPackage", .text "warn"),
      ("999", .severity .hidden)]) true).outcome.toOption =
      some (["nosuch", "", "999"] : List Text) := by
  have hlevels : ∀ q ∈ ([(" 3 , nosuch,,addedPackage", .text "warn"),
      ("999", .severity .hidden)] : List (Text × Value)), q.2.Settable := by
    simp only [List.forall_mem_cons, List.not_mem_nil, false_imp_iff, implies_true, and_true]
    exact ⟨.word (s := .warning) (toOption_eq_some.1 (by decide +kernel)), .severity .hidden⟩
  obtain ⟨_, ⟨batch, hbatch, hflat, _⟩, _⟩ := configure_textual sampleState true hlevels
  have hb : requestedBatch (textual [(" 3 , nosuch,,addedPackage", .text "warn"),
      ("999", .severity .hidden)]) =
      .ok [(" 3 , nosuch,,addedPackage", .warning), ("999", .hidden)] :=
    toOption_eq_some.1 (by decide +kernel)
  obtain rfl := Except.ok.inj (hb.symm.trans hbatch)
  rw [hflat (by decide +kernel)]
  decide +kernel

def nines (n : Nat) : Text := .ofChars (List.replicate n '9')

theorem overlong_nines {n : Nat} (h : Decimal.digitLimit < n) : (nines n).Overlong := by
  have hstrip : Text.strip (List.replicate n '9') = List.replicate n '9' :=
    Text.stripOf_eq_self fun c hc => List.eq_of_mem_replicate hc ▸ by decide
  have hn : n ≠ 0 := Nat.ne_of_gt (Nat.zero_lt_of_lt h)
  refine ⟨String.ofList (List.replicate n '9'), ?_, ?_⟩
  · rw [Option.mem_def, Text.string?, nines, Text.chars?_ofChars, Option.map_some]
  · rw [String.toList_ofList, hstrip, List.length_replicate, Decimal.isNumeral, Bool.and_eq_true,
      Bool.not_eq_true', List.isEmpty_eq_false_iff, List.all_eq_true]
    refine ⟨⟨by simpa using hn, fun c hc => ?_⟩, h⟩
    rw [List.eq_of_mem_replicate hc]
    decide

theorem stops_nines {n : Nat} (h : Decimal.digitLimit < n) : standard.Stops (nines n) := by
  refine ⟨overlong_nines h, fun s hs => byName?_standard_of_isDigit (c := '9') ?_ (by decide)⟩
  rw [Option.mem_def, nines, Text.string?, Text.chars?_ofChars, Option.map_some] at hs
  rw [← Option.some.inj hs, String.toList_ofList]
  exact List.mem_replicate.2 ⟨Nat.ne_of_gt (Nat.zero_lt_of_lt h), rfl⟩

theorem tokenPieces_nines (n : Nat) : tokenPieces (nines n) = [nines n] := by
  rw [tokenPieces, if_neg]
  simp [nines, Text.ofChars]

/-- A token of digits alone aborts a batch: the text before it is stored, the text behind it is never
looked at, and there is no answer to tell of it. -/
theorem configure_nines :
    let run := standard.configure (textual [("AddedPackage", .severity .error),
      (nines 4301, .severity .error), ("AddedClass", .severity .error)]) true
    run.outcome.isOk = false ∧ run.registry = standard.store 2 .error true ∧
      (standard.setSeverity (.text (nines 4301)) (.severity .error) true).outcome.isOk = false := by
  intro run
  have hstops := stops_nines (show Decimal.digitLimit < 4301 by decide)
  have hbatch : requestedBatch (textual [("AddedPackage", .severity .error),
      (nines 4301, .severity .error), ("AddedClass", .severity .error)]) =
      .ok [("AddedPackage", .error), (nines 4301, .error), ("AddedClass", .error)] := rfl
  have hpieces : requestPieces
      [("AddedPackage", .error), (nines 4301, .error), ("AddedClass", .error)] =
      [(("AddedPackage", .error) : Text × Severity)] ++
        (nines 4301, .error) :: [("AddedClass", .error)] := by
    have hclass : tokenPieces "AddedClass" = [("AddedClass" : Text)] := by decide +kernel
    have hpackage : tokenPieces "AddedPackage" = [("AddedPackage" : Text)] := by decide +kernel
    simp only [requestPieces, List.flatMap_cons, List.flatMap_nil, tokenPieces_nines, hclass,
      hpackage, List.map_cons, List.map_nil, List.cons_append, List.nil_append]
  obtain ⟨n, hn⟩ := applyEach_of_stops hpieces (by decide +kernel) hstops true
  have hrun : run.registry = standard.storePieces true [("AddedPackage", .error)] ∧
      run.outcome = .error (.overlong (.reading n)) := by
    simp only [run, configure_eq hbatch, hn]
    exact ⟨rfl, rfl⟩
  have hcode : (standard.issueNamed? "AddedPackage").map (·.code) = some 2 := by decide +kernel
  obtain ⟨i, hi, hicode⟩ := Option.map_eq_some_iff.1 hcode
  refine ⟨by rw [hrun.2]; rfl, ?_, ?_⟩
  · rw [hrun.1, storePieces, List.foldl_cons, List.foldl_nil, hi]
    exact congrArg (standard.store · .error true) hicode
  · have hsingle : requestedBatch [(.text (nines 4301), .severity .error)] =
        .ok [(nines 4301, .error)] := rfl
    have hpiece : requestPieces [(nines 4301, .error)] = [] ++ (nines 4301, .error) :: [] := by
      simp only [requestPieces, List.flatMap_singleton, tokenPieces_nines, List.map_cons,
        List.map_nil, List.nil_append]
    obtain ⟨m, hm⟩ := applyEach_of_stops hpiece (List.forall_mem_nil _) hstops true
    rw [(setSeverity_eq_configure standard _ _ true).2, configure_eq hsingle, hm]
    rfl

end Registry

end DiagnosticCatalog
