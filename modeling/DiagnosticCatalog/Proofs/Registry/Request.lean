import DiagnosticCatalog.Proofs.Registry.Effect
import DiagnosticCatalog.Proofs.Severity
/-!
Batches of requests. A batch that comes to its end leaves with each issue the severity of the last
request whose token names it, and an issue that is not named as it was. Where severities ascend the
last request is the strictest.
-/

namespace DiagnosticCatalog.Registry

/-- The issue that a piece of a token names. -/
def issueNamed? (r : Registry) (piece : Text) : Option Issue :=
  match r.named piece with
  | .ok (some e) => some e.issue
  | _ => none

/-- Some piece of the token names the issue. -/
def Names (r : Registry) (token : Text) (i : Issue) : Prop :=
  ∃ piece ∈ tokenPieces token, r.issueNamed? piece = some i

instance (r : Registry) (token : Text) (i : Issue) : Decidable (r.Names token i) :=
  inferInstanceAs (Decidable (∃ piece ∈ tokenPieces token, r.issueNamed? piece = some i))

/-- The severity of the last request for the issue. -/
def requested? (r : Registry) (batch : List (Text × Severity)) (i : Issue) : Option Severity :=
  (batch.findRev? fun q => r.Names q.1 i).map (·.2)

/-- The most severe of the severities asked for the issue. -/
def strictest? (r : Registry) (batch : List (Text × Severity)) (i : Issue) : Option Severity :=
  Severity.all.findRev? fun s => ∃ q ∈ batch, q.2 = s ∧ r.Names q.1 i

/-- The entry once the requests are done. -/
def asked (r : Registry) (userSet : Bool) (batch : List (Text × Severity)) (e : Entry) : Entry :=
  match r.requested? batch e.issue with
  | some s => ⟨e.issue, .explicit s, userSet⟩
  | none => e

theorem asked_issue (r : Registry) (userSet : Bool) (batch : List (Text × Severity)) (e : Entry) :
    (r.asked userSet batch e).issue = e.issue := by
  unfold asked
  split <;> rfl

theorem asked_of_some {r : Registry} {batch : List (Text × Severity)} {e : Entry} {s : Severity}
    (h : r.requested? batch e.issue = some s) (userSet : Bool) :
    r.asked userSet batch e = ⟨e.issue, .explicit s, userSet⟩ := by
  rw [asked, h]

theorem asked_of_none {r : Registry} {batch : List (Text × Severity)} {e : Entry}
    (h : r.requested? batch e.issue = none) (userSet : Bool) : r.asked userSet batch e = e := by
  rw [asked, h]

section

variable {g : Entry → Entry} (hg : ∀ e, (g e).issue = e.issue) (r : Registry)

include hg

theorem issueNamed?_update (piece : Text) :
    (r.update g).issueNamed? piece = r.issueNamed? piece := by
  rw [issueNamed?, named_update hg, issueNamed?]
  rcases r.named piece with _ | _ | e
  · rfl
  · rfl
  · exact congrArg some (hg e)

/-- Which issues are named does not depend on levels. -/
theorem asked_update (userSet : Bool) (batch : List (Text × Severity)) :
    (r.update g).asked userSet batch = r.asked userSet batch := by
  have hnames : ∀ token i, (r.update g).Names token i ↔ r.Names token i := by
    intro token i
    simp only [Names, issueNamed?_update hg]
  funext e
  simp only [asked, requested?, hnames]

end

theorem mem_of_named {r : Registry} {piece : Text} {e : Entry}
    (h : r.named piece = .ok (some e)) : e ∈ r.entries := by
  rw [named] at h
  split at h
  · cases h
  · exact mem_of_resolveText h

/-- The latest write to an issue comes from the last piece that names it. -/
theorem latest?_pieceEffect {r : Registry} (hr : (r.entries.map (·.issue.code)).Nodup) {e : Entry}
    (he : e ∈ r.entries) {userSet : Bool} {qs : List (Text × Severity)}
    (h : (r.pieceEffect userSet qs).completes = true) :
    Write.latest? e.issue.code (r.pieceEffect userSet qs).writes =
      (qs.findRev? fun q => r.issueNamed? q.1 = some e.issue).map fun q =>
        ⟨e.issue.code, q.2, userSet⟩ := by
  induction qs with
  | nil => rfl
  | cons q qs ih =>
      obtain ⟨piece, s⟩ := q
      rw [findRev?_cons, issueNamed?]
      rw [pieceEffect] at h ⊢
      rcases hn : r.named piece with _ | _ | f
      · rw [hn] at h
        cases h
      · rw [hn] at h
        simpa using ih h
      · rw [hn] at h
        have hf := mem_of_named hn
        have hcode : f.issue.code = e.issue.code ↔ f.issue = e.issue :=
          ⟨fun hc => congrArg Entry.issue (eq_of_code hr hf he hc), fun hi => hi ▸ rfl⟩
        simp only [Effect.writing, Write.latest?_cons, ih h, hcode, Option.map_or,
          Option.some.injEq, decide_eq_true_eq]
        congr 1
        by_cases hi : f.issue = e.issue
        · rw [if_pos hi, if_pos hi, hi]
          rfl
        · rw [if_neg hi, if_neg hi]
          rfl

/-- All pieces of a token come with one severity. -/
theorem findRev?_pieces (r : Registry) (pieces : List Text) (s : Severity) (i : Issue) :
    ((pieces.map fun p => (p, s)).findRev? fun q => r.issueNamed? q.1 = some i).map (·.2) =
      if ∃ p ∈ pieces, r.issueNamed? p = some i then some s else none := by
  induction pieces with
  | nil => rfl
  | cons p ps ih =>
      have hcons : (∃ q ∈ p :: ps, r.issueNamed? q = some i) ↔
          r.issueNamed? p = some i ∨ ∃ q ∈ ps, r.issueNamed? q = some i := by
        simp only [List.mem_cons, exists_eq_or_imp]
      rw [List.map_cons, findRev?_cons, Option.map_or, ih]
      simp only [decide_eq_true_eq]
      by_cases hps : ∃ q ∈ ps, r.issueNamed? q = some i
      · rw [if_pos hps, if_pos (hcons.2 (.inr hps)), Option.some_or]
      · rw [if_neg hps, Option.none_or]
        by_cases hp : r.issueNamed? p = some i
        · rw [if_pos hp, if_pos (hcons.2 (.inl hp)), Option.map_some]
        · rw [if_neg hp, if_neg (mt hcons.1 (not_or.2 ⟨hp, hps⟩)), Option.map_none]

theorem findRev?_requestPieces (r : Registry) (batch : List (Text × Severity)) (i : Issue) :
    ((requestPieces batch).findRev? fun q => r.issueNamed? q.1 = some i).map (·.2) =
      r.requested? batch i := by
  induction batch with
  | nil => rfl
  | cons q batch ih =>
      obtain ⟨token, s⟩ := q
      have hcons : requestPieces ((token, s) :: batch) =
          (tokenPieces token).map (fun p => (p, s)) ++ requestPieces batch := rfl
      rw [hcons, findRev?_append, Option.map_or, ih, findRev?_pieces, requested?, requested?,
        findRev?_cons, Option.map_or]
      congr 1
      change (if r.Names token i then some s else none) = _
      by_cases hn : r.Names token i
      · rw [if_pos hn, if_pos (decide_eq_true hn), Option.map_some]
      · rw [if_neg hn, if_neg (by simpa using hn), Option.map_none]

theorem requested?_eq_strictest? (r : Registry) {batch : List (Text × Severity)}
    (h : batch.Pairwise fun p q => p.2 ≤ q.2) (i : Issue) :
    r.requested? batch i = r.strictest? batch i := by
  rw [requested?, strictest?]
  cases hlast : batch.findRev? fun q => r.Names q.1 i with
  | none =>
      refine (findRev?_eq_none.2 fun s _ hs => ?_).symm
      obtain ⟨q, hq, _, hn⟩ := of_decide_eq_true hs
      exact findRev?_eq_none.1 hlast q hq (decide_eq_true hn)
  | some q =>
      obtain ⟨hq, hn⟩ := findRev?_some hlast
      have hle := le_findRev? (fun p : Text × Severity => Severity.le_refl p.2) h hlast
      have hmem : decide (∃ p ∈ batch, p.2 = q.2 ∧ r.Names p.1 i) = true :=
        decide_eq_true ⟨q, hq, rfl, of_decide_eq_true hn⟩
      cases hmost : Severity.all.findRev? fun s => ∃ p ∈ batch, p.2 = s ∧ r.Names p.1 i with
      | none => exact absurd hmem (findRev?_eq_none.1 hmost q.2 (Severity.mem_all q.2))
      | some t =>
          have hqt := le_findRev? Severity.le_refl Severity.pairwise_all hmost q.2
            (Severity.mem_all q.2) hmem
          obtain ⟨p, hp, rfl, hpn⟩ := of_decide_eq_true (findRev?_some hmost).2
          have hpq := hle p hp (decide_eq_true hpn)
          exact congrArg some (Severity.le_antisymm hqt hpq)

/-- A batch that comes to its end leaves every entry as it was asked for. -/
theorem configureSeverities_registry {r : Registry} (hr : (r.entries.map (·.issue.code)).Nodup)
    {userSet : Bool} {batch : List (Text × Severity)} {missed : List Text}
    (h : (r.configureSeverities batch userSet).outcome = .ok missed) :
    (r.configureSeverities batch userSet).registry = r.update (r.asked userSet batch) := by
  obtain ⟨hregistry, houtcome⟩ := configureSeverities_does r userSet batch
  have hc : (r.pieceEffect userSet (requestPieces batch)).completes = true := by
    rw [← houtcome, h]
    rfl
  rw [hregistry, commit_eq_update]
  apply update_congr
  intro e he
  rw [Entry.after, latest?_pieceEffect hr he hc, asked, ← findRev?_requestPieces]
  cases (requestPieces batch).findRev? fun q => r.issueNamed? q.1 = some e.issue <;> rfl

end DiagnosticCatalog.Registry
