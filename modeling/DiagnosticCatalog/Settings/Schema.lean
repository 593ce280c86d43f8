import DiagnosticCatalog.Json
import DiagnosticCatalog.Settings.Complaint
/-!
The rules for settings documents as a JSON schema, for tools that check documents by themselves.
-/

namespace DiagnosticCatalog.Settings

def schemaType (name : String) : Text × Json := ("type", .text name)

def schemaReference (name : String) : Json := .object [("$ref", .text ("#/$defs/" ++ name))]

def schemaChoices (words : List String) : List Json := words.map fun w : String => .text w

def presetSchema : Json :=
  .object [("type", .array (schemaChoices ["string", "null"])),
    ("enum", .array (schemaChoices (nonePreset :: Preset.all.map Preset.name) ++ [.null]))]

def tokenSchema : Json :=
  .object [("oneOf", .array [.object [schemaType "string", ("minLength", .whole 1)],
    .object [schemaType "integer", ("minimum", .whole 0)]])]

def severitiesSchema : Json :=
  .object [schemaType "object",
    ("propertyNames", .object [("enum", .array (schemaChoices severityWords))]),
    ("additionalProperties", .object [("oneOf", .array [schemaReference "token",
      .object [schemaType "array", ("items", schemaReference "token")]])])]

def truthSchema : Json := .object [schemaType "boolean"]

def schema : Json :=
  .object [("$schema", .text "https://json-schema.org/draft/2020-12/schema"),
    ("$id", .text "severity_config.schema.json"),
    ("title", .text "Issue severity configuration"), schemaType "object",
    ("additionalProperties", .truth false),
    ("properties", .object [("preset", presetSchema), ("warnings_as_errors", truthSchema),
      ("lints_as_errors", truthSchema), ("severities", severitiesSchema)]),
    ("$defs", .object [("token", tokenSchema)])]

end DiagnosticCatalog.Settings
