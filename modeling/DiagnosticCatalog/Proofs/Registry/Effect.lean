import DiagnosticCatalog.Proofs.Registry.DecimalToken
import DiagnosticCatalog.Proofs.Registry.Write
/-!
What the operations write. The effect of a call is the list of its writes together with whether it
comes to its end; a call that fails has the writes before the place where it failed. Every operation
but the reset leaves the registry that its effect leads to and succeeds just if its effect completes.
-/

namespace DiagnosticCatalog

structure Effect where
  writes : List Write
  completes : Bool
  deriving DecidableEq, Repr

namespace Effect

def none : Effect := ⟨[], true⟩

def stop : Effect := ⟨[], false⟩

/-- One write, and then the rest. -/
def writing (w : Write) (x : Effect) : Effect := ⟨w :: x.writes, x.completes⟩

/-- The second effect too, if the first completes. -/
def andThen (x y : Effect) : Effect :=
  if x.completes then ⟨x.writes ++ y.writes, y.completes⟩ else x

@[simp] theorem writing_andThen (w : Write) (x y : Effect) :
    (x.writing w).andThen y = (x.andThen y).writing w := by
  by_cases h : x.completes = true <;> simp [andThen, writing, h]

end Effect

/-- The pieces of tokens in order, each with the severity asked for. -/
def requestPieces (batch : List (Text × Severity)) : List (Text × Severity) :=
  batch.flatMap fun q => (Registry.tokenPieces q.1).map fun p => (p, q.2)

namespace Registry

/-- The entry that a piece of a token names. The empty piece names none. -/
def named (r : Registry) (piece : Text) : Except Decimal.Overlong (Option Entry) :=
  if piece.isEmpty then .ok none else r.resolveText piece

def pieceEffect (r : Registry) (userSet : Bool) : List (Text × Severity) → Effect
  | [] => .none
  | (piece, s) :: rest =>
    match r.named piece with
    | .error _ => .stop
    | .ok none => r.pieceEffect userSet rest
    | .ok (some e) => (r.pieceEffect userSet rest).writing ⟨e.issue.code, s, userSet⟩

/-- Whether an issue is user-set is asked when its row is reached. The write goes to the issue that
the decimal text of the code leads to. -/
def tableEffect (r : Registry) : List (Int × Severity) → Effect
  | [] => .none
  | (code, s) :: rest =>
    match r.byCode? code with
    | none => .stop
    | some e =>
      if e.userSet then r.tableEffect rest
      else match r.resolveText (decimalToken code) with
        | .error _ => .stop
        | .ok none => r.tableEffect rest
        | .ok (some f) =>
          let w : Write := ⟨f.issue.code, s, false⟩
          ((r.put w).tableEffect rest).writing w

def presetEffect (r : Registry) (name : String) : Effect :=
  match Preset.ofName? name with
  | some p => r.tableEffect p.table
  | none => .stop

end Registry

def Operation.effect (r : Registry) : Operation → Effect
  | .setLevel ref level =>
    match requestedSeverity level, r.require ref with
    | .ok s, .ok e => ⟨[⟨e.issue.code, s, true⟩], true⟩
    | _, _ => .stop
  | .setSeverity token level userSet =>
    match Registry.request token level with
    | .ok q => r.pieceEffect userSet (requestPieces [q])
    | .error _ => .stop
  | .configure requests userSet =>
    match Registry.requestedBatch requests with
    | .ok batch => r.pieceEffect userSet (requestPieces batch)
    | .error _ => .stop
  | .applyPreset name => r.presetEffect name
  | .applySettings a =>
    let preset := match a.presetName? with
      | some name => r.presetEffect name
      | none => .none
    preset.andThen (r.pieceEffect true (requestPieces a.severities))
  | .reset => .none

theorem Run.map_registry {α β : Type} (f : α → β) (x : Run α) : (x.map f).registry = x.registry := rfl

theorem Run.outcome_of_andThen {α β : Type} {x : Run α} {f : Registry → α → Run β} {b : β}
    (h : (x.andThen f).outcome = .ok b) : ∃ a, x.outcome = .ok a ∧
      (f x.registry a).outcome = .ok b ∧ (x.andThen f).registry = (f x.registry a).registry := by
  unfold andThen at h ⊢
  cases hx : x.outcome with
  | error e =>
      rw [hx] at h
      cases h
  | ok a =>
      rw [hx] at h
      exact ⟨a, rfl, h, rfl⟩

theorem Run.outcome_of_map {α β : Type} {x : Run α} {f : α → β} {b : β}
    (h : (x.map f).outcome = .ok b) : ∃ a, x.outcome = .ok a ∧ f a = b := by
  unfold map at h
  cases hx : x.outcome with
  | error e =>
      rw [hx] at h
      cases h
  | ok a =>
      rw [hx] at h
      exact ⟨a, rfl, Except.ok.inj h⟩

/-- The run leaves what the effect leads to, and succeeds just if the effect completes. -/
structure Run.Does {α : Type} (x : Run α) (r : Registry) (y : Effect) : Prop where
  registry : x.registry = r.commit y.writes
  outcome : x.outcome.isOk = y.completes

namespace Run.Does

variable {α β : Type} {r : Registry} {x : Run α} {y z : Effect}

theorem done (r : Registry) (a : α) : (Run.done r a).Does r .none := ⟨rfl, rfl⟩

theorem fail (r : Registry) (e : Failure) : (Run.fail r e : Run α).Does r .stop := ⟨rfl, rfl⟩

theorem map (h : x.Does r y) (f : α → β) : (x.map f).Does r y := by
  refine ⟨h.registry, h.outcome ▸ ?_⟩
  unfold Run.map
  cases x.outcome <;> rfl

theorem noting (h : x.Does r y) (notes : α → List Notice) : (x.noting notes).Does r y := by
  unfold Run.noting
  split
  · exact h
  · exact ⟨h.registry, h.outcome⟩

/-- The second run is judged from where the first one ended. -/
theorem andThen (h : x.Does r y) {f : Registry → α → Run β}
    (hf : ∀ a, (f (r.commit y.writes) a).Does (r.commit y.writes) z) :
    (x.andThen f).Does r (y.andThen z) := by
  obtain ⟨hr, ho⟩ := h
  unfold Run.andThen Effect.andThen
  cases hx : x.outcome with
  | error e =>
      have hy : y.completes = false := by rw [← ho, hx]; rfl
      rw [hy]
      exact ⟨hr, hy.symm⟩
  | ok a =>
      have hy : y.completes = true := by rw [← ho, hx]; rfl
      rw [hy, if_pos rfl]
      refine ⟨?_, ?_⟩
      · rw [hr, (hf a).registry, Registry.commit_append]
      · rw [hr]
        exact (hf a).outcome

end Run.Does

namespace Registry

section

variable {g : Entry → Entry} (hg : ∀ e, (g e).issue = e.issue) (r : Registry)

include hg

theorem named_update (piece : Text) :
    (r.update g).named piece = (r.named piece).map (Option.map g) := by
  unfold named
  split
  · rfl
  · exact resolveText_update hg r piece

/-- What pieces name does not depend on levels. -/
theorem pieceEffect_update (userSet : Bool) (qs : List (Text × Severity)) :
    (r.update g).pieceEffect userSet qs = r.pieceEffect userSet qs := by
  induction qs with
  | nil => rfl
  | cons q qs ih =>
      obtain ⟨piece, s⟩ := q
      simp only [pieceEffect, named_update hg, ih]
      rcases r.named piece with _ | _ | e
      · rfl
      · rfl
      · simp only [Except.map, Option.map_some, hg]

end

theorem pieceEffect_commit (r : Registry) (ws : List Write) (userSet : Bool)
    (qs : List (Text × Severity)) :
    (r.commit ws).pieceEffect userSet qs = r.pieceEffect userSet qs := by
  rw [commit_eq_update, pieceEffect_update (Entry.after_issue ws)]

theorem pieceEffect_append (r : Registry) (userSet : Bool) (ps qs : List (Text × Severity)) :
    r.pieceEffect userSet (ps ++ qs) =
      (r.pieceEffect userSet ps).andThen (r.pieceEffect userSet qs) := by
  induction ps with
  | nil => rfl
  | cons p ps ih =>
      obtain ⟨piece, s⟩ := p
      simp only [List.cons_append, pieceEffect, ih]
      rcases r.named piece with _ | _ | e
      · rfl
      · rfl
      · simp only [Effect.writing_andThen]

/-! ## What the operations do -/

theorem write_does (r : Registry) (e : Entry) (s : Severity) (userSet : Bool) :
    (r.write e s userSet).Does r ⟨[⟨e.issue.code, s, userSet⟩], true⟩ := ⟨rfl, rfl⟩

theorem applyPiece_does (r : Registry) (s : Severity) (userSet : Bool) (piece : Text) :
    (r.applyPiece s userSet piece).Does r (r.pieceEffect userSet [(piece, s)]) := by
  unfold applyPiece
  simp only [pieceEffect, named]
  by_cases h : piece.isEmpty = true
  · rw [if_pos h, if_pos h]
    exact .done r _
  · rw [if_neg h, if_neg h]
    rcases r.resolveText piece with _ | _ | e
    · exact .fail r _
    · exact .done r _
    · exact (write_does r e s userSet).map _

theorem applyPieces_does (r : Registry) (s : Severity) (userSet : Bool) (pieces : List Text) :
    (r.applyPieces s userSet pieces).Does r (r.pieceEffect userSet (pieces.map fun p => (p, s))) := by
  induction pieces generalizing r with
  | nil => exact .done r _
  | cons p ps ih =>
      have hp : (p :: ps).map (fun p => (p, s)) = [(p, s)] ++ ps.map fun p => (p, s) := rfl
      rw [hp, pieceEffect_append]
      refine (applyPiece_does r s userSet p).andThen fun missed => Run.Does.map ?_ _
      simpa only [pieceEffect_commit] using ih (r.commit (r.pieceEffect userSet [(p, s)]).writes)

theorem applyBatch_does (r : Registry) (userSet : Bool) (batch : List (Text × Severity)) :
    (r.applyBatch userSet batch).Does r (r.pieceEffect userSet (requestPieces batch)) := by
  induction batch generalizing r with
  | nil => exact .done r _
  | cons q qs ih =>
      obtain ⟨token, s⟩ := q
      have hq : requestPieces ((token, s) :: qs) =
          (tokenPieces token).map (fun p => (p, s)) ++ requestPieces qs := rfl
      rw [hq, pieceEffect_append]
      refine (applyPieces_does r s userSet (tokenPieces token)).andThen fun missed =>
        Run.Does.map ?_ _
      simpa only [pieceEffect_commit] using ih (r.commit _)

theorem configureSeverities_does (r : Registry) (userSet : Bool) (batch : List (Text × Severity)) :
    (r.configureSeverities batch userSet).Does r (r.pieceEffect userSet (requestPieces batch)) :=
  (applyBatch_does r userSet batch).noting _

theorem setSeverity_does (r : Registry) {token : Token} {level : Value} {q : Text × Severity}
    (h : request token level = .ok q) (userSet : Bool) :
    (r.setSeverity token level userSet).Does r (r.pieceEffect userSet (requestPieces [q])) := by
  rw [setSeverity, h]
  have hq : requestPieces [q] = (tokenPieces q.1).map fun p => (p, q.2) := List.append_nil _
  rw [hq]
  exact (applyPieces_does r q.2 userSet (tokenPieces q.1)).map _

theorem setSeverity_code_does (r : Registry) {code : Int} (h : Decimal.isWritable code = true)
    (s : Severity) (userSet : Bool) :
    (r.setSeverity (.code code) (.severity s) userSet).Does r
      (r.pieceEffect userSet [(decimalToken code, s)]) := by
  have hq : request (.code code) (.severity s) = .ok (decimalToken code, s) := by
    simp only [request, Token.spelling_code h, requestedSeverity]
  have hp : requestPieces [(decimalToken code, s)] = [(decimalToken code, s)] := by
    simp only [requestPieces, List.flatMap_singleton, tokenPieces_decimalToken, List.map_cons,
      List.map_nil]
  exact hp ▸ setSeverity_does r hq userSet

/-- A row that is not passed over has the effect of its token, and the rest follows. -/
theorem tableEffect_cons (r : Registry) {code : Int} {e : Entry} (he : r.byCode? code = some e)
    (hu : ¬e.userSet = true) (s : Severity) (rows : List (Int × Severity)) :
    r.tableEffect ((code, s) :: rows) = (r.pieceEffect false [(decimalToken code, s)]).andThen
      ((r.commit (r.pieceEffect false [(decimalToken code, s)]).writes).tableEffect rows) := by
  have hn : r.named (decimalToken code) = r.resolveText (decimalToken code) := by
    rw [named, isEmpty_decimalToken]
    rfl
  simp only [tableEffect, he, if_neg hu, pieceEffect, hn]
  rcases r.resolveText (decimalToken code) with _ | _ | f <;> rfl

/-! A row of a table either stops it, is passed over, or is written. -/

theorem applyTable_cons_of_none {r : Registry} {code : Int} (h : r.byCode? code = none)
    (s : Severity) (rows : List (Int × Severity)) :
    r.applyTable ((code, s) :: rows) = .fail r (.unknown (.token (.code code))) := by
  rw [applyTable, require_code_of_none h]

theorem applyTable_cons_of_userSet {r : Registry} {code : Int} {e : Entry}
    (h : r.byCode? code = some e) (hu : e.userSet = true) (s : Severity)
    (rows : List (Int × Severity)) : r.applyTable ((code, s) :: rows) = r.applyTable rows := by
  rw [applyTable, require_code h]
  exact if_pos hu

theorem applyTable_cons_of_open {r : Registry} {code : Int} {e : Entry}
    (h : r.byCode? code = some e) (hu : e.userSet = false) (s : Severity)
    (rows : List (Int × Severity)) : r.applyTable ((code, s) :: rows) =
      (r.setSeverity (.code code) (.severity s) false).andThen fun r _ =>
        (r.applyTable rows).map (· + 1) := by
  rw [applyTable, require_code h]
  exact if_neg (by rw [hu]; exact Bool.false_ne_true)

theorem applyTable_does (r : Registry) (rows : List (Int × Severity))
    (h : ∀ row ∈ rows, Decimal.isWritable row.1 = true) :
    (r.applyTable rows).Does r (r.tableEffect rows) := by
  induction rows generalizing r with
  | nil => exact .done r _
  | cons row rows ih =>
      obtain ⟨code, s⟩ := row
      have hc := h (code, s) List.mem_cons_self
      have ih := fun r => ih r fun row hrow => h row (List.mem_cons_of_mem _ hrow)
      cases he : r.byCode? code with
      | none =>
          rw [applyTable_cons_of_none he, tableEffect, he]
          exact .fail r _
      | some e =>
          cases hu : e.userSet with
          | true =>
              rw [applyTable_cons_of_userSet he hu, tableEffect, he]
              simp only [if_pos hu]
              exact ih r
          | false =>
              rw [applyTable_cons_of_open he hu, tableEffect_cons r he (by simp [hu])]
              exact (setSeverity_code_does r hc s false).andThen fun _ => (ih _).map _

theorem isWritable_table : ∀ p : Preset, ∀ row ∈ p.table, Decimal.isWritable row.1 = true := by
  intro p
  cases p <;> decide +kernel

theorem applyPreset_does (r : Registry) (p : Preset) :
    (r.applyPreset p).Does r (r.tableEffect p.table) :=
  (applyTable_does r p.table (isWritable_table p)).noting _

theorem applyPresetNamed_does (r : Registry) (name : String) :
    (r.applyPresetNamed name).Does r (r.presetEffect name) := by
  unfold applyPresetNamed presetEffect Preset.find
  cases Preset.ofName? name with
  | none => exact .fail r _
  | some p => exact applyPreset_does r p

theorem applySettings_does (r : Registry) (a : Arrangement) :
    (r.applySettings a).Does r (Operation.effect r (.applySettings a)) := by
  unfold applySettings
  refine Run.Does.andThen ?_ fun _ => ?_
  · cases a.presetName? with
    | none => exact .done r _
    | some name => exact (applyPresetNamed_does r name).map _
  · simpa only [pieceEffect_commit] using configureSeverities_does (r.commit _) true a.severities

theorem setLevel_does (r : Registry) (ref : Ref) (level : Value) :
    (r.setLevel ref level).Does r (Operation.effect r (.setLevel ref level)) := by
  simp only [setLevel, Operation.effect]
  cases requestedSeverity level with
  | error e => exact .fail r _
  | ok s =>
      cases r.require ref with
      | error e => exact .fail r _
      | ok e => exact write_does r e s true

/-- What one operation does. The reset alone is no list of writes. -/
theorem perform_does (r : Registry) {op : Operation} (h : op ≠ .reset) :
    (r.perform op).Does r (op.effect r) := by
  cases op with
  | setLevel ref level => exact (setLevel_does r ref level).map _
  | setSeverity token level userSet =>
      cases hq : request token level with
      | error e =>
          simp only [perform, setSeverity, Operation.effect, hq]
          exact (Run.Does.fail r e).map _
      | ok q =>
          simp only [perform, Operation.effect, hq]
          exact (setSeverity_does r hq userSet).map _
  | configure requests userSet =>
      cases hq : requestedBatch requests with
      | error e =>
          simp only [perform, configure, Operation.effect, hq]
          exact (Run.Does.fail r e).map _
      | ok batch =>
          simp only [perform, configure, Operation.effect, hq]
          exact (configureSeverities_does r userSet batch).map _
  | applyPreset name => exact (applyPresetNamed_does r name).map _
  | applySettings a => exact (applySettings_does r a).map _
  | reset => exact absurd rfl h

theorem perform_reset (r : Registry) :
    (r.perform .reset).registry = r.update (fun e => fresh e.issue) ∧
      (r.perform .reset).outcome.isOk = true := ⟨rfl, rfl⟩

end Registry

end DiagnosticCatalog
