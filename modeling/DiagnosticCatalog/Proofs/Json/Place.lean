import DiagnosticCatalog.Proofs.Json.Schema
import DiagnosticCatalog.Settings.Complaint
/-!
Places in a value and in a schema. The steps of a place lead through the members and items of the
value, and through the keywords of the schema to the part of it that is for what stands there.
-/

namespace DiagnosticCatalog.Json

/-- The steps lead from a value to one within it. -/
inductive Leads : Json → List Step → Json → Prop
  | here (j : Json) : Leads j [] j
  | key {ms : List (Text × Json)} {name : String} {child node : Json} {place : List Step} :
      ((name : Text), child) ∈ ms → Leads child place node →
      Leads (.object ms) (.key name :: place) node
  | index {js : List Json} {n : Nat} {child node : Json} {place : List Step} :
      js[n]? = some child → Leads child place node → Leads (.array js) (.index n :: place) node

/-- The part of a schema within `root` that is for what stands at a place: for a member the schema
of its name, or that of all other names; for an item the one for items. What lies within a value may
be governed by any of several choices. -/
inductive Governs (root : Json) : (schema : Json) → (place : List Step) → (part : Json) → Prop
  | whole (schema : Json) : Governs root schema [] schema
  | property {keywords : List (Text × Json)} {name : String} {schema part : Json}
      {place : List Step} :
      ((keywords.lookup ("properties" : Text)).getD .null).members.lookup (name : Text) =
        some schema →
      Governs root schema place part → Governs root (.object keywords) (.key name :: place) part
  | additional {keywords : List (Text × Json)} {name : String} {schema part : Json}
      {place : List Step} : (name : Text) ∉ declaredNames keywords →
      keywords.lookup ("additionalProperties" : Text) = some schema →
      Governs root schema place part → Governs root (.object keywords) (.key name :: place) part
  | items {keywords : List (Text × Json)} {n : Nat} {schema part : Json} {place : List Step} :
      keywords.lookup ("items" : Text) = some schema → Governs root schema place part →
      Governs root (.object keywords) (.index n :: place) part
  | choice {keywords : List (Text × Json)} {choices : List Json} {schema part : Json} {step : Step}
      {place : List Step} : keywords.lookup ("oneOf" : Text) = some (.array choices) →
      schema ∈ choices → Governs root schema (step :: place) part →
      Governs root (.object keywords) (step :: place) part
  | reference {keywords : List (Text × Json)} {ref : Text} {schema part : Json} {step : Step}
      {place : List Step} : keywords.lookup ("$ref" : Text) = some (.text ref) →
      definition? root ref = some schema → Governs root schema (step :: place) part →
      Governs root (.object keywords) (step :: place) part

section

variable {root schema part : Json} {keywords : List (Text × Json)} {name : String} {n : Nat}
variable {place : List Step}

theorem governs_nil_iff : Governs root schema [] part ↔ part = schema := by
  constructor
  · rintro ⟨_⟩
    rfl
  · rintro rfl
    exact .whole _

theorem governs_key_iff (hchoice : keywords.lookup ("oneOf" : Text) = none)
    (hreference : keywords.lookup ("$ref" : Text) = none) :
    Governs root (.object keywords) (.key name :: place) part ↔ ∃ schema,
      (((keywords.lookup ("properties" : Text)).getD .null).members.lookup (name : Text) =
          some schema ∨
        (name : Text) ∉ declaredNames keywords ∧
          keywords.lookup ("additionalProperties" : Text) = some schema) ∧
      Governs root schema place part := by
  constructor
  · intro h
    cases h with
    | property hschema h => exact ⟨_, .inl hschema, h⟩
    | additional hname hschema h => exact ⟨_, .inr ⟨hname, hschema⟩, h⟩
    | choice h _ _ => cases hchoice.symm.trans h
    | reference h _ _ => cases hreference.symm.trans h
  · rintro ⟨_, hschema | ⟨hname, hschema⟩, h⟩
    · exact .property hschema h
    · exact .additional hname hschema h

theorem governs_index_iff (hchoice : keywords.lookup ("oneOf" : Text) = none)
    (hreference : keywords.lookup ("$ref" : Text) = none) :
    Governs root (.object keywords) (.index n :: place) part ↔ ∃ schema,
      keywords.lookup ("items" : Text) = some schema ∧ Governs root schema place part := by
  constructor
  · intro h
    cases h with
    | items hschema h => exact ⟨_, hschema, h⟩
    | choice h _ _ => cases hchoice.symm.trans h
    | reference h _ _ => cases hreference.symm.trans h
  · rintro ⟨_, hschema, h⟩
    exact .items hschema h

theorem governs_choice_iff {choices : List Json} {step : Step} :
    Governs root (.object [("oneOf", .array choices)]) (step :: place) part ↔
      ∃ schema ∈ choices, Governs root schema (step :: place) part := by
  constructor
  · intro h
    cases h with
    | choice hchoices hschema h =>
        obtain rfl := Json.array.inj (Option.some.inj hchoices)
        exact ⟨_, hschema, h⟩
    | property h _ => cases h
    | additional _ h _ => cases h
    | items h _ => cases h
    | reference h _ _ => cases h
  · rintro ⟨_, hschema, h⟩
    exact .choice rfl hschema h

theorem governs_reference_iff {ref : Text} {step : Step} :
    Governs root (.object [("$ref", .text ref)]) (step :: place) part ↔
      ∃ schema, definition? root ref = some schema ∧ Governs root schema (step :: place) part := by
  constructor
  · intro h
    cases h with
    | reference href hschema h =>
        obtain rfl := Json.text.inj (Option.some.inj href)
        exact ⟨_, hschema, h⟩
    | property h _ => cases h
    | additional _ h _ => cases h
    | items h _ => cases h
    | choice h _ _ => cases h
  · rintro ⟨_, hschema, h⟩
    exact .reference rfl hschema h

end

end DiagnosticCatalog.Json
