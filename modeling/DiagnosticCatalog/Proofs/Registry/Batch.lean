import DiagnosticCatalog.Proofs.Registry.Inheritance
import DiagnosticCatalog.Proofs.Registry.Request
/-!
Batches against a flat account of them: all tokens cut into pieces, the pieces stored one by one, and
those that name no issue put on a list, each with a warning. A token alone is a batch of one, and
batches done one after the other are one batch.
-/

namespace DiagnosticCatalog

/-! ## Runs one after the other -/

namespace Run

variable {α β γ : Type}

theorem done_andThen (r : Registry) (a : α) (f : Registry → α → Run β) :
    (done r a).andThen f = f r a := rfl

theorem map_andThen (x : Run α) (g : α → β) (f : Registry → β → Run γ) :
    (x.map g).andThen f = x.andThen fun r a => f r (g a) := by
  obtain ⟨r, log, outcome⟩ := x
  cases outcome <;> rfl

theorem andThen_map (x : Run α) (f : Registry → α → Run β) (g : β → γ) :
    (x.andThen f).map g = x.andThen fun r a => (f r a).map g := by
  obtain ⟨r, log, outcome⟩ := x
  cases outcome <;> rfl

theorem map_map (x : Run α) (f : α → β) (g : β → γ) : (x.map f).map g = x.map (g ∘ f) := by
  obtain ⟨r, log, outcome⟩ := x
  cases outcome <;> rfl

theorem map_id (x : Run α) : x.map (fun a => a) = x := by
  obtain ⟨r, log, outcome⟩ := x
  cases outcome <;> rfl

theorem andThen_assoc (x : Run α) (f : Registry → α → Run β) (g : Registry → β → Run γ) :
    (x.andThen f).andThen g = x.andThen fun r a => (f r a).andThen g := by
  obtain ⟨r, log, outcome⟩ := x
  cases outcome with
  | error e => rfl
  | ok a =>
      simp only [andThen]
      cases (f r a).outcome with
      | error e => rfl
      | ok b => simp only [List.append_assoc]

theorem andThen_outcome_eq_ok_iff {x : Run α} {f : Registry → α → Run β} {b : β} :
    (x.andThen f).outcome = .ok b ↔
      ∃ a, x.outcome = .ok a ∧ (f x.registry a).outcome = .ok b := by
  obtain ⟨r, log, outcome⟩ := x
  cases outcome <;> simp [andThen]

theorem andThen_outcome_eq_error_iff {x : Run α} {f : Registry → α → Run β} {e : Failure} :
    (x.andThen f).outcome = .error e ↔
      x.outcome = .error e ∨ ∃ a, x.outcome = .ok a ∧ (f x.registry a).outcome = .error e := by
  obtain ⟨r, log, outcome⟩ := x
  cases outcome <;> simp [andThen]

theorem map_outcome_eq_ok_iff {x : Run α} {f : α → β} {b : β} :
    (x.map f).outcome = .ok b ↔ ∃ a, x.outcome = .ok a ∧ f a = b := by
  obtain ⟨r, log, outcome⟩ := x
  cases outcome <;> simp [map, Except.map]

theorem map_outcome_eq_error_iff {x : Run α} {f : α → β} {e : Failure} :
    (x.map f).outcome = .error e ↔ x.outcome = .error e := by
  obtain ⟨r, log, outcome⟩ := x
  cases outcome <;> simp [map, Except.map]

theorem outcome_noting (x : Run α) (notes : α → List Notice) :
    (x.noting notes).outcome = x.outcome := by
  obtain ⟨r, log, outcome⟩ := x
  cases outcome <;> rfl

theorem registry_noting (x : Run α) (notes : α → List Notice) :
    (x.noting notes).registry = x.registry := by
  obtain ⟨r, log, outcome⟩ := x
  cases outcome <;> rfl

end Run

namespace Registry

/-- Pieces applied one by one, each with a severity of its own. -/
def applyEach (r : Registry) (userSet : Bool) : List (Text × Severity) → Run (List Text)
  | [] => .done r []
  | (piece, s) :: rest =>
    (r.applyPiece s userSet piece).andThen fun r missed =>
      (applyEach r userSet rest).map (missed ++ ·)

theorem map_nil_append (x : Run (List Text)) : x.map ([] ++ ·) = x := by
  obtain ⟨r, log, outcome⟩ := x
  cases outcome <;> rfl

theorem applyEach_append (r : Registry) (userSet : Bool) (ps qs : List (Text × Severity)) :
    r.applyEach userSet (ps ++ qs) = (r.applyEach userSet ps).andThen fun r missed =>
      (r.applyEach userSet qs).map (missed ++ ·) := by
  induction ps generalizing r with
  | nil => exact (map_nil_append _).symm
  | cons p ps ih =>
      obtain ⟨piece, s⟩ := p
      simp only [List.cons_append, applyEach, ih, Run.andThen_assoc, Run.andThen_map,
        Run.map_andThen, Run.map_map, Function.comp_def, List.append_assoc]

theorem applyPieces_eq (r : Registry) (s : Severity) (userSet : Bool) (pieces : List Text) :
    r.applyPieces s userSet pieces = r.applyEach userSet (pieces.map fun p => (p, s)) := by
  induction pieces generalizing r with
  | nil => rfl
  | cons p ps ih => simp only [applyPieces, List.map_cons, applyEach, ih]

/-- Whatever the outcome, token by token comes to the same as piece by piece. -/
theorem applyBatch_eq (r : Registry) (userSet : Bool) (batch : List (Text × Severity)) :
    r.applyBatch userSet batch = r.applyEach userSet (requestPieces batch) := by
  induction batch generalizing r with
  | nil => rfl
  | cons q batch ih =>
      obtain ⟨token, s⟩ := q
      have hq : requestPieces ((token, s) :: batch) =
          (tokenPieces token).map (fun p => (p, s)) ++ requestPieces batch := rfl
      simp only [hq, applyEach_append, applyBatch, applyToken, applyPieces_eq, ih]

/-! ## The flat account -/

/-- The issues that the pieces name take the severities in turn. -/
def storePieces (r : Registry) (userSet : Bool) (qs : List (Text × Severity)) : Registry :=
  qs.foldl (fun r q =>
    match r.issueNamed? q.1 with
    | some i => r.store i.code q.2 userSet
    | none => r) r

/-- The pieces that name no issue, as often as they come. -/
def missedPieces (r : Registry) (qs : List (Text × Severity)) : List Text :=
  (qs.map (·.1)).filter fun p => (r.issueNamed? p).isNone

theorem missedPieces_update {g : Entry → Entry} (hg : ∀ e, (g e).issue = e.issue) (r : Registry)
    (qs : List (Text × Severity)) : (r.update g).missedPieces qs = r.missedPieces qs := by
  simp only [missedPieces, issueNamed?_update hg]

def storedNotices (r : Registry) (userSet : Bool) (qs : List (Text × Severity)) : List Notice :=
  qs.filterMap fun q => (r.issueNamed? q.1).map fun i => .stored i q.2 userSet

theorem applyPiece_eq (r : Registry) (s : Severity) (userSet : Bool) (piece : Text) :
    r.applyPiece s userSet piece = match r.named piece with
      | .error e => .fail r (.overlong e)
      | .ok none => .done r [piece]
      | .ok (some e) => (r.write e s userSet).map fun _ => [] := by
  unfold applyPiece named
  by_cases h : piece.isEmpty = true
  · rw [if_pos h, if_pos h]
  · rcases r.resolveText piece with _ | _ | e <;> simp only [if_neg h]

/-- After a write the rest is done in the state that it leaves. -/
theorem write_andThen (r : Registry) (e : Entry) (s : Severity) (userSet : Bool)
    (f : Registry → List Text → Run (List Text)) :
    ((r.write e s userSet).map fun _ => []).andThen f =
      ⟨(f (r.store e.issue.code s userSet) []).registry,
        .stored e.issue s userSet :: (f (r.store e.issue.code s userSet) []).log,
        (f (r.store e.issue.code s userSet) []).outcome⟩ := rfl

theorem issueNamed?_store (r : Registry) (code : Int) (s : Severity) (userSet : Bool) :
    (r.store code s userSet).issueNamed? = r.issueNamed? := by
  funext piece
  change (r.put ⟨code, s, userSet⟩).issueNamed? piece = _
  rw [put_eq_update, issueNamed?_update (Entry.after_issue _)]

/-- Which pieces are missed and what is made known goes by the state before. -/
theorem applyEach_of_ok {r : Registry} {userSet : Bool} {qs : List (Text × Severity)}
    {missed : List Text} (h : (r.applyEach userSet qs).outcome = .ok missed) :
    r.applyEach userSet qs =
      ⟨r.storePieces userSet qs, r.storedNotices userSet qs, .ok (r.missedPieces qs)⟩ := by
  induction qs generalizing r missed with
  | nil => rfl
  | cons q qs ih =>
      obtain ⟨piece, s⟩ := q
      rw [applyEach, applyPiece_eq] at h ⊢
      rcases hn : r.named piece with e | _ | e
      · rw [hn] at h
        cases h
      · simp only [hn, Run.done_andThen] at h ⊢
        have hi : r.issueNamed? piece = none := by rw [issueNamed?, hn]
        obtain ⟨rest, hrest, _⟩ := Run.outcome_of_map h
        rw [ih hrest]
        simp [Run.map, Except.map, storePieces, storedNotices, missedPieces, hi]
      · simp only [hn, write_andThen, map_nil_append] at h ⊢
        have hi : r.issueNamed? piece = some e.issue := by rw [issueNamed?, hn]
        have hsame := issueNamed?_store r e.issue.code s userSet
        rw [ih h]
        simp [storePieces, storedNotices, missedPieces, hi, hsame]

theorem missed_of_configureSeverities {r : Registry} {userSet : Bool}
    {batch : List (Text × Severity)} {missed : List Text}
    (h : (r.configureSeverities batch userSet).outcome = .ok missed) :
    missed = r.missedPieces (requestPieces batch) := by
  rw [configureSeverities, Run.outcome_noting, applyBatch_eq] at h
  rw [applyEach_of_ok h] at h
  exact (Except.ok.inj h).symm

/-- The whole of a batch at once: the state, what is made known, and the pieces missed. -/
def flatRun (r : Registry) (userSet : Bool) (qs : List (Text × Severity)) : Run (List Text) where
  registry := r.storePieces userSet qs
  log := r.storedNotices userSet qs ++ (r.missedPieces qs).map .unrecognized
  outcome := .ok (r.missedPieces qs)

theorem configure_eq {requests : List (Token × Value)} {batch : List (Text × Severity)}
    (h : requestedBatch requests = .ok batch) (r : Registry) (userSet : Bool) :
    r.configure requests userSet = (r.applyEach userSet (requestPieces batch)).noting fun missed =>
      missed.map .unrecognized := by
  simp only [configure, h, configureSeverities, applyBatch_eq]

theorem configure_outcome_eq_ok_iff {r : Registry} {requests : List (Token × Value)}
    {userSet : Bool} {missed : List Text} :
    (r.configure requests userSet).outcome = .ok missed ↔ ∃ batch,
      requestedBatch requests = .ok batch ∧
        (r.applyEach userSet (requestPieces batch)).outcome = .ok missed := by
  cases hb : requestedBatch requests with
  | error e => simp [configure, hb, Run.fail]
  | ok batch => simp [configure_eq hb, Run.outcome_noting]

theorem configure_of_ok {r : Registry} {requests : List (Token × Value)} {userSet : Bool}
    {batch : List (Text × Severity)} {missed : List Text}
    (hbatch : requestedBatch requests = .ok batch)
    (h : (r.applyEach userSet (requestPieces batch)).outcome = .ok missed) :
    r.configure requests userSet = r.flatRun userSet (requestPieces batch) := by
  rw [configure_eq hbatch, applyEach_of_ok h]
  rfl

/-! ## Batches one after the other -/

theorem requestedBatch_append {first second : List (Token × Value)}
    {batch : List (Text × Severity)} : requestedBatch (first ++ second) = .ok batch ↔
      ∃ b₁ b₂, requestedBatch first = .ok b₁ ∧ requestedBatch second = .ok b₂ ∧
        b₁ ++ b₂ = batch := by
  rw [requestedBatch, List.mapM_append, requestedBatch, requestedBatch]
  cases List.mapM (fun q : Token × Value => request q.1 q.2) first with
  | error e => simp [bind, Except.bind]
  | ok b₁ =>
      cases List.mapM (fun q : Token × Value => request q.1 q.2) second with
      | error e => simp [bind, Except.bind]
      | ok b₂ => simp [bind, Except.bind, pure, Except.pure]

theorem issueNamed?_storePieces (r : Registry) (userSet : Bool) (qs : List (Text × Severity)) :
    (r.storePieces userSet qs).issueNamed? = r.issueNamed? := by
  induction qs generalizing r with
  | nil => rfl
  | cons q qs ih =>
      rw [storePieces, List.foldl_cons]
      cases r.issueNamed? q.1 with
      | none => exact ih r
      | some i => exact (ih _).trans (issueNamed?_store r i.code q.2 userSet)

theorem storePieces_append (r : Registry) (userSet : Bool) (ps qs : List (Text × Severity)) :
    r.storePieces userSet (ps ++ qs) = (r.storePieces userSet ps).storePieces userSet qs :=
  List.foldl_append

theorem missedPieces_append (r : Registry) (userSet : Bool) (ps qs : List (Text × Severity)) :
    r.missedPieces (ps ++ qs) =
      r.missedPieces ps ++ (r.storePieces userSet ps).missedPieces qs := by
  simp only [missedPieces, List.map_append, List.filter_append, issueNamed?_storePieces]

/-- Pieces in two parts come to their end just if each part does, the second after the first. -/
theorem applyEach_append_ok_iff {r : Registry} {userSet : Bool} {ps qs : List (Text × Severity)}
    {missed : List Text} : (r.applyEach userSet (ps ++ qs)).outcome = .ok missed ↔
      ∃ m₁ m₂, (r.applyEach userSet ps).outcome = .ok m₁ ∧
        ((r.storePieces userSet ps).applyEach userSet qs).outcome = .ok m₂ ∧
        m₁ ++ m₂ = missed := by
  rw [applyEach_append, Run.andThen_outcome_eq_ok_iff]
  constructor
  · rintro ⟨m₁, h₁, h⟩
    obtain ⟨m₂, h₂, hm⟩ := Run.map_outcome_eq_ok_iff.1 h
    rw [applyEach_of_ok h₁] at h₂
    exact ⟨m₁, m₂, h₁, h₂, hm⟩
  · rintro ⟨m₁, m₂, h₁, h₂, hm⟩
    refine ⟨m₁, h₁, Run.map_outcome_eq_ok_iff.2 ⟨m₂, ?_, hm⟩⟩
    rw [applyEach_of_ok h₁]
    exact h₂

theorem requestPieces_append (b₁ b₂ : List (Text × Severity)) :
    requestPieces (b₁ ++ b₂) = requestPieces b₁ ++ requestPieces b₂ := List.flatMap_append

theorem warnings_flatRun (r : Registry) (userSet : Bool) (qs : List (Text × Severity)) :
    (r.flatRun userSet qs).log.filter (·.isWarning) =
      (r.missedPieces qs).map .unrecognized := by
  have hstored : (r.storedNotices userSet qs).filter (·.isWarning) = [] := by
    refine List.filter_eq_nil_iff.2 fun n hn => ?_
    obtain ⟨q, _, hq⟩ := List.mem_filterMap.1 hn
    obtain ⟨i, _, rfl⟩ := Option.map_eq_some_iff.1 hq
    exact Bool.false_ne_true
  have hmissed : ((r.missedPieces qs).map Notice.unrecognized).filter (·.isWarning) =
      (r.missedPieces qs).map .unrecognized := by
    refine List.filter_eq_self.2 fun n hn => ?_
    obtain ⟨p, _, rfl⟩ := List.mem_map.1 hn
    rfl
  rw [flatRun, List.filter_append, hstored, hmissed, List.nil_append]

/-- The one batch after the other, with what both have missed. -/
def configureTwice (r : Registry) (first second : List (Token × Value)) (userSet : Bool) :
    Run (List Text) :=
  (r.configure first userSet).andThen fun r m => (r.configure second userSet).map (m ++ ·)

theorem configureTwice_outcome_eq_ok_iff {r : Registry} {first second : List (Token × Value)}
    {userSet : Bool} {missed : List Text} :
    (r.configureTwice first second userSet).outcome = .ok missed ↔
      (r.configure (first ++ second) userSet).outcome = .ok missed := by
  rw [configureTwice, Run.andThen_outcome_eq_ok_iff, configure_outcome_eq_ok_iff]
  constructor
  · rintro ⟨m₁, hfirst, hsecond⟩
    obtain ⟨m₂, hsecond, hm⟩ := Run.map_outcome_eq_ok_iff.1 hsecond
    obtain ⟨b₁, hb₁, h₁⟩ := configure_outcome_eq_ok_iff.1 hfirst
    rw [configure_of_ok hb₁ h₁] at hsecond
    obtain ⟨b₂, hb₂, h₂⟩ := configure_outcome_eq_ok_iff.1 hsecond
    refine ⟨b₁ ++ b₂, requestedBatch_append.2 ⟨b₁, b₂, hb₁, hb₂, rfl⟩, ?_⟩
    rw [requestPieces_append]
    exact applyEach_append_ok_iff.2 ⟨m₁, m₂, h₁, h₂, hm⟩
  · rintro ⟨b, hb, h⟩
    obtain ⟨b₁, b₂, hb₁, hb₂, rfl⟩ := requestedBatch_append.1 hb
    rw [requestPieces_append] at h
    obtain ⟨m₁, m₂, h₁, h₂, hm⟩ := applyEach_append_ok_iff.1 h
    refine ⟨m₁, configure_outcome_eq_ok_iff.2 ⟨b₁, hb₁, h₁⟩, ?_⟩
    refine Run.map_outcome_eq_ok_iff.2 ⟨m₂, ?_, hm⟩
    rw [configure_of_ok hb₁ h₁]
    exact configure_outcome_eq_ok_iff.2 ⟨b₂, hb₂, h₂⟩

/-- Only the times at which things are made known tell two batches from one. -/
theorem configureTwice_of_ok {r : Registry} {first second : List (Token × Value)} {userSet : Bool}
    {missed : List Text} (h : (r.configure (first ++ second) userSet).outcome = .ok missed) :
    (r.configureTwice first second userSet).registry =
        (r.configure (first ++ second) userSet).registry ∧
      (r.configureTwice first second userSet).log.filter (·.isWarning) =
        (r.configure (first ++ second) userSet).log.filter (·.isWarning) := by
  obtain ⟨b, hb, h⟩ := configure_outcome_eq_ok_iff.1 h
  obtain ⟨b₁, b₂, hb₁, hb₂, rfl⟩ := requestedBatch_append.1 hb
  rw [configure_of_ok hb h]
  rw [requestPieces_append] at h ⊢
  obtain ⟨m₁, m₂, h₁, h₂, _⟩ := applyEach_append_ok_iff.1 h
  have hfirst := configure_of_ok hb₁ h₁
  have hsecond := configure_of_ok hb₂ h₂
  have htwice : r.configureTwice first second userSet =
      (r.flatRun userSet (requestPieces b₁)).andThen fun _ m =>
        ((r.storePieces userSet (requestPieces b₁)).flatRun userSet
          (requestPieces b₂)).map (m ++ ·) := by
    rw [configureTwice, hfirst, Run.andThen, Run.andThen]
    simp only [flatRun] at hsecond ⊢
    rw [hsecond]
  rw [htwice]
  constructor
  · exact (storePieces_append r userSet _ _).symm
  · rw [warnings_flatRun, missedPieces_append r userSet, List.map_append, ← warnings_flatRun r,
      ← warnings_flatRun, ← List.filter_append]
    rfl

/-! ## Single tokens -/

/-- One token, asked for alone, is a batch of one, but of what is missed nothing is told. -/
theorem setSeverity_eq_configure (r : Registry) (token : Token) (level : Value) (userSet : Bool) :
    (r.setSeverity token level userSet).registry =
        (r.configure [(token, level)] userSet).registry ∧
      (r.setSeverity token level userSet).outcome =
        (r.configure [(token, level)] userSet).outcome.map List.isEmpty := by
  cases hq : request token level with
  | error e =>
      have hb : requestedBatch [(token, level)] = .error e := by
        simp [requestedBatch, hq, bind, Except.bind]
      simp only [setSeverity, hq, configure, hb]
      exact ⟨rfl, rfl⟩
  | ok q =>
      have hb : requestedBatch [(token, level)] = .ok [q] := by
        simp [requestedBatch, hq, bind, Except.bind, pure, Except.pure]
      obtain ⟨t, s⟩ := q
      simp only [setSeverity, hq, configure, hb, configureSeverities, applyBatch]
      obtain ⟨r', log, outcome⟩ := r.applyToken t s userSet
      cases outcome with
      | error e => exact ⟨rfl, rfl⟩
      | ok missed => simp [Run.andThen, Run.map, Run.noting, Run.done, Except.map]

/-- How a token is cut: one with commas into what stands between them, without outer blanks, any
other not at all. -/
def Cut (token : Text) (pieces : List Text) : Prop :=
  (.char ',' ∉ token.letters ∧ pieces = [token]) ∨
    (.char ',' ∈ token.letters ∧ ∃ cuts : List Text,
      [Letter.char ','].intercalate (cuts.map Text.letters) = token.letters ∧
        (∀ c ∈ cuts, .char ',' ∉ c.letters) ∧ pieces = cuts.map Text.trim)

theorem cut_tokenPieces (token : Text) : Cut token (tokenPieces token) := by
  rw [tokenPieces]
  by_cases h : (Letter.char ',') ∈ token.letters
  · rw [if_pos (List.contains_iff_mem.2 h)]
    refine .inr ⟨h, token.split ',', ?_, ?_, rfl⟩
    · rw [Text.split, List.map_map]
      exact (congrArg _ (List.map_id _)).trans (Text.intercalate_splitAt _ _)
    · intro c hc
      obtain ⟨piece, hp, rfl⟩ := List.mem_map.1 hc
      exact Text.not_mem_of_mem_splitAt hp
  · rw [if_neg (mt List.contains_iff_mem.1 h)]
    exact .inl ⟨h, rfl⟩

/-- In every state after a history, a batch that comes to its end has stored its pieces one by one
and answers with those that name no issue, each of which it has warned of; so an issue is left with
the severity of the last request that names it. A single token does what the batch of it alone does,
and tells whether nothing was missed. Two batches one after the other do what the one batch does. -/
theorem Reached.configure_flat {ds : List Declaration} {r : Registry} (h : Reached ds r)
    (userSet : Bool) :
    (∀ token, Cut token (tokenPieces token)) ∧
    (∀ requests missed, (r.configure requests userSet).outcome = .ok missed →
      ∃ batch, requestedBatch requests = .ok batch ∧
        r.configure requests userSet = r.flatRun userSet (requestPieces batch) ∧
        (r.configure requests userSet).log.filter (·.isWarning) = missed.map .unrecognized ∧
        (r.configure requests userSet).registry.entries = r.entries.map (r.asked userSet batch)) ∧
    (∀ token level,
      (r.setSeverity token level userSet).registry =
        (r.configure [(token, level)] userSet).registry ∧
      (r.setSeverity token level userSet).outcome =
        (r.configure [(token, level)] userSet).outcome.map List.isEmpty) ∧
    ∀ first second missed,
      ((r.configureTwice first second userSet).outcome = .ok missed ↔
        (r.configure (first ++ second) userSet).outcome = .ok missed) ∧
      ((r.configure (first ++ second) userSet).outcome = .ok missed →
        (r.configureTwice first second userSet).registry =
            (r.configure (first ++ second) userSet).registry ∧
          (r.configureTwice first second userSet).log.filter (·.isWarning) =
            (r.configure (first ++ second) userSet).log.filter (·.isWarning)) := by
  refine ⟨cut_tokenPieces, ?_, fun token level => setSeverity_eq_configure r token level userSet,
    fun first second missed => ⟨configureTwice_outcome_eq_ok_iff, configureTwice_of_ok⟩⟩
  intro requests missed hok
  obtain ⟨batch, hbatch, heach⟩ := configure_outcome_eq_ok_iff.1 hok
  have hflat := configure_of_ok hbatch heach
  have hmissed : missed = r.missedPieces (requestPieces batch) := by
    rw [hflat] at hok
    exact (Except.ok.inj hok).symm
  refine ⟨batch, hbatch, hflat, ?_, ?_⟩
  · rw [hflat, warnings_flatRun, hmissed]
  · simp only [configure, hbatch] at hok ⊢
    rw [configureSeverities_registry h.resolvable.codes hok]
    rfl

def sampleRequests : List (Token × Value) := [
  (.text " 3 , nosuch,,addedPackage", .text "warn"),
  (.code 40, .severity .hidden),
  (.text "nosuch", .severity .error)]

/-- Three pieces name no issue, one of them twice and one being empty, and the others are stored. -/
theorem Reached.configure_flat_sample :
    (sampleState.configure sampleRequests true).outcome.toOption =
      some (["nosuch", "", "nosuch"] : List Text) ∧
    (sampleState.configure sampleRequests true).registry.entries.map
        (fun e => (e.level, e.userSet)) =
      [(.explicit .warning, true), (.explicit .warning, true), (.inherit, false),
        (.explicit .hidden, true)] := by
  have hbatch : requestedBatch sampleRequests =
      .ok [(" 3 , nosuch,,addedPackage", .warning), ("40", .hidden), ("nosuch", .error)] :=
    toOption_eq_some.1 (by decide +kernel)
  have hok : (sampleState.configure sampleRequests true).outcome.isOk = true := by decide +kernel
  obtain ⟨missed, hmissed⟩ := exists_of_isOk hok
  obtain ⟨batch, hb, hflat, _, hentries⟩ :=
    (reached_sampleState.configure_flat true).2.1 sampleRequests missed hmissed
  obtain rfl := Except.ok.inj (hb.symm.trans hbatch)
  constructor
  · rw [hflat]
    decide +kernel
  · rw [hentries, List.map_map]
    decide +kernel

end Registry

end DiagnosticCatalog
