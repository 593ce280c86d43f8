import DiagnosticCatalog.Proofs.Descent
import DiagnosticCatalog.Registry
/-!
Look-ups. What is found is an entry of the registry, and with distinct codes it is found by its code.
Where entries are updated in place the same issues are found under the same tokens.
-/

namespace DiagnosticCatalog

instance decidableEqExcept {ε α : Type} [DecidableEq ε] [DecidableEq α] : DecidableEq (Except ε α)
  | .error e, .error f => decidable_of_iff (e = f) (by rw [Except.error.injEq])
  | .ok a, .ok b => decidable_of_iff (a = b) (by rw [Except.ok.injEq])
  | .error _, .ok _ => isFalse nofun
  | .ok _, .error _ => isFalse nofun

theorem toOption_eq_some {ε α : Type} {x : Except ε α} {a : α} :
    x.toOption = some a ↔ x = .ok a := by
  cases x <;> simp [Except.toOption]

theorem exists_of_isOk {ε α : Type} {x : Except ε α} (h : x.isOk = true) : ∃ a, x = .ok a := by
  cases x with
  | error e => cases h
  | ok a => exact ⟨a, rfl⟩

/-- A code that can be written is told as such. -/
theorem Failure.unknown_code {code : Int} (h : Decimal.isWritable code = true) :
    unknown (.token (.code code)) = .issue (.token (.code code)) := by
  have hw : UnknownIssue.isWritable (.token (.code code)) = true := by
    rw [UnknownIssue.isWritable, Token.value, Value.isWritable, h]
  rw [unknown, if_pos hw]

theorem exists_mapM {ε α β : Type} {f : α → Except ε β} {l : List α}
    (h : ∀ a ∈ l, ∃ b, f a = .ok b) : ∃ bs, l.mapM f = .ok bs := by
  induction l with
  | nil => exact ⟨[], rfl⟩
  | cons a l ih =>
      obtain ⟨⟨b, hb⟩, hl⟩ := List.forall_mem_cons.1 h
      obtain ⟨bs, hbs⟩ := ih hl
      refine ⟨b :: bs, ?_⟩
      rw [List.mapM_cons, hb, hbs]
      rfl

namespace Registry

/-! ## Members -/

section

variable {r : Registry}

theorem mem_of_byCode? {c : Int} {e : Entry} (h : r.byCode? c = some e) :
    e ∈ r.entries ∧ e.issue.code = c :=
  ⟨List.mem_of_find?_eq_some h, by simpa using List.find?_some h⟩

theorem isSome_byCode?_iff {code : Int} :
    (r.byCode? code).isSome = true ↔ ∃ e ∈ r.entries, e.issue.code = code := by
  simp [byCode?]

theorem byCode?_of_mem (h : (r.entries.map (·.issue.code)).Nodup) {e : Entry}
    (he : e ∈ r.entries) : r.byCode? e.issue.code = some e := Descent.find?_key h he

theorem eq_of_code (h : (r.entries.map (·.issue.code)).Nodup) {e f : Entry} (he : e ∈ r.entries)
    (hf : f ∈ r.entries) (hc : e.issue.code = f.issue.code) : e = f :=
  Option.some.inj ((byCode?_of_mem h he).symm.trans (hc ▸ byCode?_of_mem h hf))

theorem mem_of_resolveString {s : String} {e : Entry} (h : r.resolveString s = .ok (some e)) :
    e ∈ r.entries := by
  unfold resolveString at h
  cases hn : r.byName? s with
  | some f =>
      simp only [hn, Except.ok.injEq, Option.some.injEq] at h
      exact h ▸ List.mem_of_find?_eq_some hn
  | none =>
      simp only [hn] at h
      split at h
      · cases hd : Decimal.readNumeral (Text.strip s.toList) with
        | error f => simp [hd] at h
        | ok n =>
            simp only [hd, Except.ok.injEq] at h
            exact (mem_of_byCode? h).1
      · exact List.mem_of_find?_eq_some (Except.ok.inj h)

theorem mem_of_resolveText {t : Text} {e : Entry} (h : r.resolveText t = .ok (some e)) :
    e ∈ r.entries := by
  unfold resolveText at h
  cases hs : t.string? with
  | none => simp [hs] at h
  | some s =>
      rw [hs] at h
      exact mem_of_resolveString h

theorem mem_of_resolve {t : Token} {e : Entry} (h : r.resolve t = .ok (some e)) :
    e ∈ r.entries := by
  cases t with
  | text t => exact mem_of_resolveText h
  | code n => exact (mem_of_byCode? (Except.ok.inj h)).1
  | truth b => cases h

theorem mem_of_require {ref : Ref} {e : Entry} (h : r.require ref = .ok e) : e ∈ r.entries := by
  unfold require at h
  split at h
  · split at h
    · cases h
    · cases h
    · rename_i hr
      exact Except.ok.inj h ▸ mem_of_resolve hr
  all_goals
    split at h
    · cases h
    · rename_i hc
      exact Except.ok.inj h ▸ (mem_of_byCode? hc).1

theorem require_of_resolve {t : Token} {e : Entry} (h : r.resolve t = .ok (some e)) :
    r.require (.token t) = .ok e := by
  rw [require, h]

theorem require_code {code : Int} {e : Entry} (h : r.byCode? code = some e) :
    r.require (.token (.code code)) = .ok e :=
  require_of_resolve (congrArg Except.ok h)

theorem require_code_of_none {code : Int} (h : r.byCode? code = none) :
    r.require (.token (.code code)) = .error (.unknown (.token (.code code))) := by
  simp only [require, resolve, h]

theorem require_member (h : (r.entries.map (·.issue.code)).Nodup) {e : Entry}
    (he : e ∈ r.entries) : r.require (.member e.issue) = .ok e := by
  rw [require, byCode?_of_mem h he]

end

/-! ## Updated states -/

/-- Every entry updated in place. -/
def update (g : Entry → Entry) (r : Registry) : Registry := ⟨r.entries.map g⟩

theorem update_update (g h : Entry → Entry) (r : Registry) :
    (r.update g).update h = r.update (h ∘ g) := by
  simp only [update, List.map_map]

theorem update_congr {r : Registry} {g h : Entry → Entry} (hgh : ∀ e ∈ r.entries, g e = h e) :
    r.update g = r.update h := congrArg Registry.mk (List.map_congr_left hgh)

theorem update_eq_self_iff {r : Registry} {g : Entry → Entry} :
    r.update g = r ↔ ∀ e ∈ r.entries, g e = e := by
  obtain ⟨entries⟩ := r
  rw [update, Registry.mk.injEq]
  simpa only [List.map_id, id] using List.map_inj_left (l := entries) (f := g) (g := id)

section

variable {g : Entry → Entry} (hg : ∀ e, (g e).issue = e.issue) (r : Registry)

include hg

theorem codes_update :
    (r.update g).entries.map (·.issue.code) = r.entries.map (·.issue.code) := by
  rw [update, List.map_map]
  exact List.map_congr_left fun e _ => congrArg Issue.code (hg e)

theorem byCode?_update (c : Int) : (r.update g).byCode? c = (r.byCode? c).map g := by
  simp only [byCode?, update, List.find?_map, Function.comp_def, hg]

theorem byName?_update (n : String) : (r.update g).byName? n = (r.byName? n).map g := by
  simp only [byName?, update, List.find?_map, Function.comp_def, hg]

theorem byFoldedName?_update (n : String) :
    (r.update g).byFoldedName? n = (r.byFoldedName? n).map g := by
  simp only [byFoldedName?, update, List.find?_map, Function.comp_def, hg]

theorem resolveString_update (s : String) :
    (r.update g).resolveString s = (r.resolveString s).map (Option.map g) := by
  simp only [resolveString, byName?_update hg, byCode?_update hg, byFoldedName?_update hg]
  cases r.byName? s with
  | some e => rfl
  | none =>
      by_cases h : Decimal.isNumeral (Text.strip s.toList) = true
      · simp only [Option.map_none, h, if_true]
        cases Decimal.readNumeral (Text.strip s.toList) <;> rfl
      · simp only [Option.map_none, h]
        rfl

theorem resolveText_update (t : Text) :
    (r.update g).resolveText t = (r.resolveText t).map (Option.map g) := by
  unfold resolveText
  cases t.string? with
  | none => rfl
  | some s => exact resolveString_update hg r s

theorem resolve_update (t : Token) :
    (r.update g).resolve t = (r.resolve t).map (Option.map g) := by
  cases t with
  | text t => exact resolveText_update hg r t
  | code n => exact congrArg Except.ok (byCode?_update hg r n)
  | truth b => rfl

theorem require_update (ref : Ref) : (r.update g).require ref = (r.require ref).map g := by
  cases ref with
  | token t =>
      rw [require, require, resolve_update hg]
      rcases r.resolve t with e | _ | e <;> rfl
  | member i =>
      rw [require, require, byCode?_update hg]
      cases r.byCode? i.code <;> rfl
  | foreign i =>
      rw [require, require, byCode?_update hg]
      cases r.byCode? i.code <;> rfl

theorem parentOf?_update (i : Issue) : (r.update g).parentOf? i = (r.parentOf? i).map g := by
  unfold parentOf?
  cases i.parentCode? with
  | none => rfl
  | some c => exact byCode?_update hg r c

end

end Registry

end DiagnosticCatalog
