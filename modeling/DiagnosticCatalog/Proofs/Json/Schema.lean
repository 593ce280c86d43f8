import DiagnosticCatalog.Json
import DiagnosticCatalog.Proofs.Text
/-!
What a JSON schema asks of a value, by the rules of draft 2020-12. The keywords are those that the
schema of settings uses; any other stands for a remark. A keyword asks nothing of a value that is
not of its kind. Choices are texts or null here, and a reference goes to a definition of the same
schema.
-/

namespace DiagnosticCatalog.Json

open Decimal

def members : Json → List (Text × Json)
  | .object ms => ms
  | _ => []

def items : Json → List Json
  | .array js => js
  | _ => []

/-! ## Assertions -/

/-- The value as a whole number, however it is spelt. A truth value is no number. -/
def whole? : Json → Option Int
  | .whole n => some n
  | .real x => x.toInt?
  | _ => none

def isOfType (v : Json) (name : Text) : Bool :=
  match v with
  | .null => name = "null"
  | .truth _ => name = "boolean"
  | .whole _ => name = "integer" || name = "number"
  | .real _ => name = "number" || (name = "integer" && v.whole?.isSome)
  | .text _ => name = "string"
  | .array _ => name = "array"
  | .object _ => name = "object"

/-- The types of a `type` keyword, one alone or several. -/
def typeNames : Json → List Text
  | .text t => [t]
  | .array js => js.filterMap fun j => match j with
    | .text t => some t
    | _ => none
  | _ => []

def isChoice : (choice v : Json) → Bool
  | .null, .null => true
  | .text s, .text t => t = s
  | _, _ => false

/-- Whether a number is no less than the bound. What is no number, or not comparable, passes. -/
def isAtLeast (least : Int) : Json → Bool
  | .whole n => least ≤ n
  | .real (.finite negative mantissa exponent) =>
    let (num, den) := Binary64.ratio mantissa exponent
    least * den ≤ Binary64.signed negative num
  | .real (.infinite negative) => !negative
  | _ => true

/-- What is asked by the keywords that look at the value alone. -/
def asserts (keyword : Text) (argument v : Json) : Bool :=
  if keyword = "type" then (typeNames argument).any v.isOfType
  else if keyword = "enum" then argument.items.any fun choice => isChoice choice v
  else if keyword = "minLength" then
    match argument, v with
    | .whole n, .text t => n ≤ t.letters.length
    | _, _ => true
  else if keyword = "minimum" then
    match argument with
    | .whole least => isAtLeast least v
    | _ => true
  else true

/-! ## Schemas within schemas -/

/-- The names for which the keywords have schemas of their own. -/
def declaredNames (keywords : List (Text × Json)) : List Text :=
  ((keywords.lookup ("properties" : Text)).getD .null).members.map (·.1)

/-- The definition that a reference goes to. -/
def definition? (root : Json) (ref : Text) : Option Json :=
  (((root.members.lookup ("$defs" : Text)).getD .null).members.find? fun d =>
    ("#/$defs/" : Text).letters ++ d.1.letters = ref.letters).map (·.2)

/-- What is asked by the keywords that hold schemas or refer to them. `keeps` tells whether a value
keeps a schema, and `declared` holds the names that have schemas of their own. -/
def applies (root : Json) (keeps : (schema v : Json) → Bool) (declared : List Text)
    (keyword : Text) (argument v : Json) : Bool :=
  if keyword = "$ref" then
    match argument with
    | .text ref => (definition? root ref).any fun schema => keeps schema v
    | _ => false
  else if keyword = "properties" then
    argument.members.all fun p => (v.members.lookup p.1).all (keeps p.2)
  else if keyword = "additionalProperties" then
    v.members.all fun m => declared.contains m.1 || keeps argument m.2
  else if keyword = "propertyNames" then v.members.all fun m => keeps argument (.text m.1)
  else if keyword = "items" then v.items.all (keeps argument)
  else if keyword = "oneOf" then argument.items.countP (fun schema => keeps schema v) == 1
  else true

/-- Whether the value keeps the schema, one within `root`. Schemas that lie deeper than `depth`,
references followed, are kept by nothing. -/
def keeps (root : Json) : (depth : Nat) → (schema v : Json) → Bool
  | 0, _, _ => false
  | depth + 1, schema, v =>
    match schema with
    | .truth b => b
    | .object keywords => keywords.all fun k =>
      asserts k.1 k.2 v && applies root (keeps root depth) (declaredNames keywords) k.1 k.2 v
    | _ => false

theorem keeps_object (root : Json) (depth : Nat) (keywords : List (Text × Json)) (v : Json) :
    keeps root (depth + 1) (.object keywords) v = keywords.all fun k => asserts k.1 k.2 v &&
      applies root (keeps root depth) (declaredNames keywords) k.1 k.2 v := rfl

theorem keeps_reference {root definition : Json} {ref : Text}
    (h : definition? root ref = some definition) (depth : Nat) (v : Json) :
    keeps root (depth + 1) (.object [("$ref", .text ref)]) v = keeps root depth definition v := by
  simp [keeps_object, asserts, applies, h]

/-- Of two schemas that no value keeps at once, one is kept. -/
theorem keeps_oneOf {root s t : Json} {depth : Nat} {v : Json}
    (h : ¬(keeps root depth s v = true ∧ keeps root depth t v = true)) :
    keeps root (depth + 1) (.object [("oneOf", .array [s, t])]) v = true ↔
      keeps root depth s v = true ∨ keeps root depth t v = true := by
  have hcount : keeps root (depth + 1) (.object [("oneOf", .array [s, t])]) v =
      ([s, t].countP (fun schema => keeps root depth schema v) == 1) := by
    simp [keeps_object, asserts, applies, items]
  rw [hcount]
  cases hs : keeps root depth s v <;> cases ht : keeps root depth t v <;> simp_all

/-! ## Numbers -/

theorem den_ratio_pos (mantissa : Nat) (exponent : Int) :
    0 < (Binary64.ratio mantissa exponent).2 := Nat.pow_pos (by decide)

/-- A whole number is compared as such, however it is spelt. -/
theorem isAtLeast_of_whole? {v : Json} {n : Int} (h : v.whole? = some n) (least : Int) :
    isAtLeast least v = decide (least ≤ n) := by
  cases v with
  | whole m =>
      obtain rfl := Option.some.inj h
      rfl
  | real x =>
      cases x with
      | finite negative mantissa exponent =>
          have hden := den_ratio_pos mantissa exponent
          simp only [whole?, Binary64.toInt?, isAtLeast] at h ⊢
          generalize Binary64.ratio mantissa exponent = parts at h hden ⊢
          obtain ⟨num, den⟩ := parts
          by_cases hmod : num % den = 0
          · rw [if_pos hmod] at h
            obtain ⟨q, rfl⟩ := Nat.dvd_of_mod_eq_zero hmod
            rw [Nat.mul_div_cancel_left q hden] at h
            have hn : Binary64.signed negative (den * q) = n * den := by
              rw [← Option.some.inj h, Nat.mul_comm]
              cases negative with
              | false => exact Int.natCast_mul q den
              | true =>
                  change -((q * den : Nat) : Int) = -(q : Int) * den
                  rw [Int.natCast_mul, Int.neg_mul]
            simp only [hn, Int.mul_le_mul_iff_of_pos_right (Int.natCast_pos.2 hden)]
          · rw [if_neg hmod] at h
            cases h
      | nan => cases h
      | infinite negative => cases h
  | _ => cases h

end DiagnosticCatalog.Json
