import BuildSpec.Json.Basic

/-!
# The recipe schema

Before a recipe file is read it can be checked against the recipe schema, which is stricter
than reading: it refuses any field it does not name, empty specs and conditions, dependency
phases outside `build`, `link` and `run`, names and versions with characters other than ASCII
letters, digits, `_` and `-` (and `.` in versions), a `values` list that is empty, a
`validator` other than `integer`, and a variant `default` that is not a boolean, a string or a
whole number (`4.0` is whole).

`conforms` is the schema written as a predicate on documents; each part below is one
definition of the schema.
-/

namespace BuildSpec

namespace Schema

/-- Whether every key of an object is one of the names given. -/
def onlyKeys (fs : Json.Fields) (allowed : List String) : Bool := fs.all (allowed.contains ·.1)

/-- Whether a field, when present, satisfies a test. -/
def fieldOk (fs : Json.Fields) (k : String) (ok : Json → Bool) : Bool :=
  match Json.Fields.get? fs k with
  | some v => ok v
  | none => true

/-- Whether an array's items all satisfy a test; anything else fails. -/
def arrayOf (ok : Json → Bool) : Json → Bool
  | .array xs => xs.all ok
  | _ => false

/-- Whether a character may appear in a name. -/
def isNameChar (c : Char) : Bool := c.isAlphanum || c == '_' || c == '-'

/-- A name: one or more ASCII letters, digits, `_` or `-`. -/
def identifier : Json → Bool
  | .string s => !s.isEmpty && s.all isNameChar
  | _ => false

/-- A version: one or more ASCII letters, digits, `.`, `_` or `-`. -/
def version : Json → Bool
  | .string s => !s.isEmpty && s.all fun c => isNameChar c || c == '.'
  | _ => false

/-- A text of at least one character. -/
def nonEmptyText : Json → Bool
  | .string s => !s.isEmpty
  | _ => false

/-- Any text. -/
def text : Json → Bool
  | .string _ => true
  | _ => false

/-- A boolean. -/
def boolean : Json → Bool
  | .bool _ => true
  | _ => false

/-- A dependency phase. -/
def phase : Json → Bool
  | .string s => ["build", "link", "run"].contains s
  | _ => false

/-- An item of `versions`: a version, or an object with a version and a `preferred` flag. -/
def versionItem : Json → Bool
  | .object fs =>
    onlyKeys fs ["version", "preferred"] && (Json.Fields.get? fs "version").any version &&
      fieldOk fs "preferred" boolean
  | v => version v

/-- A variant `default`: a boolean, a text, or a whole number. -/
def defaultValue : Json → Bool
  | .bool _ | .string _ => true
  | .number n => n.isWhole
  | _ => false

/-- A non-empty list of texts. -/
def valueList : Json → Bool
  | .array xs => !xs.isEmpty && xs.all text
  | _ => false

/-- An item of `variants`. -/
def variantItem : Json → Bool
  | .object fs =>
    onlyKeys fs ["name", "description", "default", "values", "pattern", "validator", "multi"] &&
      (Json.Fields.get? fs "name").any identifier &&
      fieldOk fs "description" text && fieldOk fs "default" defaultValue &&
      fieldOk fs "values" valueList && fieldOk fs "pattern" text &&
      fieldOk fs "validator" (· == .string "integer") && fieldOk fs "multi" boolean
  | _ => false

/-- A dependency `type`: one phase, or a non-empty list of phases. -/
def phases : Json → Bool
  | .array xs => !xs.isEmpty && xs.all phase
  | v => phase v

/-- An item of `depends_on`: a spec, or an object with a spec, a condition and phases. -/
def dependencyItem : Json → Bool
  | .object fs =>
    onlyKeys fs ["spec", "when", "type"] && (Json.Fields.get? fs "spec").any nonEmptyText &&
      fieldOk fs "when" nonEmptyText && fieldOk fs "type" phases
  | v => nonEmptyText v

/-- An item of `provides`: a spec, or an object with a spec and a condition. -/
def provisionItem : Json → Bool
  | .object fs =>
    onlyKeys fs ["spec", "when"] && (Json.Fields.get? fs "spec").any nonEmptyText &&
      fieldOk fs "when" nonEmptyText
  | v => nonEmptyText v

/-- Whether a document is a recipe the schema accepts. -/
def conforms : Json → Bool
  | .object fs =>
    onlyKeys fs ["name", "description", "versions", "variants", "depends_on", "provides"] &&
      (Json.Fields.get? fs "name").any identifier && fieldOk fs "description" text &&
      fieldOk fs "versions" (arrayOf versionItem) && fieldOk fs "variants" (arrayOf variantItem) &&
      fieldOk fs "depends_on" (arrayOf dependencyItem) && fieldOk fs "provides" (arrayOf provisionItem)
  | _ => false

end Schema

end BuildSpec
