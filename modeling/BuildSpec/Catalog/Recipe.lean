import BuildSpec.Catalog.Package
import BuildSpec.Json.Basic
import BuildSpec.Spec.Parse

/-!
# Recipe documents

A recipe is a document such as

    {"name": "hdf5",
     "versions": ["1.8.16", {"version": "1.10.1", "preferred": true}],
     "variants": [{"name": "mpi", "default": true},
                  {"name": "api", "default": "default", "values": ["default", "v18"]},
                  {"name": "shift", "default": 4, "validator": "integer"}],
     "depends_on": ["zlib@1.1.2:", {"spec": "mpi", "when": "+mpi", "type": ["build", "link"]}],
     "provides": [{"spec": "h5@:3", "when": "@1.10:"}]}

Fields are read in a fixed order (name, description, versions, variants, dependencies,
provisions) and the first fault found is reported. A variant with a boolean default, or with no
default, is an on/off switch whatever else it says. A number as default is written as text
(`Json.Number.toText`). A condition (`when`) may name only the package that declares it.
-/

namespace BuildSpec

namespace Recipe

/-- A string field, `none` when absent. -/
def getStr (fs : Json.Fields) (k : String) : Except Error (Option String) :=
  match Json.Fields.get? fs k with
  | none => .ok none
  | some (.string s) => .ok (some s)
  | some _ => .error (.parse s!"{k} must be a string")

/-- The condition under `when`, which may name only the declaring package. -/
def condition (fs : Json.Fields) (package : String) : Except Error Condition := do
  match ← getStr fs "when" with
  | none => pure .always
  | some w =>
    let s ← Spec.parse w
    match s.name with
    | some n => if n != package then throw (.parse s!"condition \"{w}\" in package \"{package}\" names another package")
    | none => pure ()
    pure (.when s)

/-- An array field's items, with the message for a value that is not an array. -/
def array (v : Json) (msg : String) : Except Error (List Json) :=
  match v with
  | .array xs => .ok xs
  | _ => .error (.parse msg)

/-- The values the variant `name` allows: those listed under `values`, else the texts matching
`pattern`, else those of the named `validator`. -/
def allowed (fs : Json.Fields) (name : String) : Except Error Variant.Allowed :=
  match Json.Fields.get? fs "values" with
  | some vs => do
    let xs ← array vs s!"values of variant \"{name}\" must be an array"
    let texts ← xs.mapM fun
      | .string s => pure s
      | _ => throw (.parse s!"values of variant \"{name}\" must be strings")
    pure (Variant.Allowed.listed texts)
  | none => do
    match ← getStr fs "pattern" with
    | some p => Variant.Allowed.ofPattern p
    | none =>
      match ← getStr fs "validator" with
      | some "integer" => pure .integer
      | some other => throw (.parse s!"unknown validator \"{other}\" for variant \"{name}\"")
      | none => throw (.parse s!"variant \"{name}\" needs values, a pattern or a validator")

/-- Whether a variant may hold more than one value, `false` when `multi` is absent. -/
def multi (fs : Json.Fields) : Except Error Bool :=
  match Json.Fields.get? fs "multi" with
  | some (.bool b) => .ok b
  | some _ => .error (.parse "multi must be a bool")
  | none => .ok false

end Recipe

namespace Variant.Decl

/-- A declaration whose default is written as text: its allowed values and `multi` are read,
and the default must be allowed. -/
def ofDefaultText (fs : Json.Fields) (name description default : String) :
    Except Error Variant.Decl := do
  let allowed ← Recipe.allowed fs name
  let multi ← Recipe.multi fs
  Variant.Decl.make name (Variant.Value.parse default) description allowed (!multi)

/-- Reads a variant declaration. -/
def ofJson (v : Json) : Except Error Variant.Decl := do
  let fs ← match v with
    | .object fs => pure fs
    | _ => throw (.parse "variant must be an object")
  let name ← match ← Recipe.getStr fs "name" with
    | some n => pure n
    | none => throw (.parse "variant has no name field")
  let description := (← Recipe.getStr fs "description").getD ""
  match Json.Fields.get? fs "default" with
  | some (.bool b) => pure (Variant.Decl.flag name b description)
  | some (.string s) => ofDefaultText fs name description s
  | some (.number n) => ofDefaultText fs name description n.toText
  | some _ => throw (.parse s!"default of variant \"{name}\" must be a bool, string or number")
  | none => pure (Variant.Decl.flag name false description)

end Variant.Decl

namespace Dependency

/-- Reads a dependency of `package`: a spec text, or an object with `spec`, `type` and `when`. -/
def ofJson (v : Json) (package : String) : Except Error Dependency := do
  let (text, phases, cond) ← match v with
    | .string s => pure (s, Dependency.Phase.defaults, Condition.always)
    | .object fs => do
      let s ← match ← Recipe.getStr fs "spec" with
        | some s => pure s
        | none => throw (.parse "dependency has no spec field")
      let phases ← match Json.Fields.get? fs "type" with
        | none => pure Dependency.Phase.defaults
        | some (.string t) => pure [← Dependency.Phase.parse t]
        | some (.array xs) => xs.foldlM (fun acc x => match x with
            | .string t => do pure (Dependency.Phase.insert (← Dependency.Phase.parse t) acc)
            | _ => throw (.parse "dependency types must be strings")) []
        | some _ => throw (.parse "dependency type must be a string or an array")
      pure (s, phases, ← Recipe.condition fs package)
    | _ => throw (.parse "dependency must be a string or an object")
  let spec ← Spec.parse text
  if spec.isAnonymous then throw (.anonymousRequested spec.text)
  pure ⟨spec, phases, cond⟩

end Dependency

namespace Package

/-- Names the package in an invalid-value error of one of its variants. -/
def ownVariantError (package : String) : Error → Error
  | .invalidVariantValue v vs _ => .invalidVariantValue v vs (some package)
  | e => e

/-- Reads one entry of `versions`. -/
def addVersionJson (p : Package) : Json → Except Error Package
  | .string s => do pure (p.withVersion (← Version.parse s) false)
  | .object o => do
    let v ← match ← Recipe.getStr o "version" with
      | some v => pure v
      | none => throw (.parse "version object has no version field")
    let preferred ← match Json.Fields.get? o "preferred" with
      | some (.bool b) => pure b
      | some _ => throw (.parse "preferred must be a bool")
      | none => pure false
    pure (p.withVersion (← Version.parse v) preferred)
  | _ => .error (.parse "versions must be strings or objects")

/-- Reads one entry of `provides`. -/
def addProvisionJson (p : Package) : Json → Except Error Package
  | .string s => do p.withProvision (← Spec.parse s) .always
  | .object o => do
    let s ← match ← Recipe.getStr o "spec" with
      | some s => pure s
      | none => throw (.parse "provision has no spec field")
    let c ← Recipe.condition o p.name
    p.withProvision (← Spec.parse s) c
  | _ => .error (.parse "provides must contain strings or objects")

/-- Reads one entry of `variants` of the recipe `name`. -/
def addVariantJson (name : String) (p : Package) (e : Json) : Except Error Package := do
  p.withVariant (← (Variant.Decl.ofJson e).mapError (ownVariantError name))

/-- Reads one entry of `depends_on` of the recipe `name`. -/
def addDependencyJson (name : String) (p : Package) (e : Json) : Except Error Package := do
  p.withDependency (← Dependency.ofJson e name)

/-- Reads the entries of an array field, when present, one at a time; `msg` is the message for
a value that is not an array. -/
def readEntries (fs : Json.Fields) (field msg : String)
    (add : Package → Json → Except Error Package) (p : Package) : Except Error Package :=
  match Json.Fields.get? fs field with
  | some vs => do (← Recipe.array vs msg).foldlM add p
  | none => pure p

/-- Reads a recipe. -/
def ofJson (v : Json) : Except Error Package := do
  let fs ← match v with
    | .object fs => pure fs
    | _ => throw (.parse "JSON is not an object")
  let name ← match ← Recipe.getStr fs "name" with
    | some n => pure n
    | none => throw (.parse "JSON has no name field")
  let p : Package := { name, description := ← Recipe.getStr fs "description" }
  let p ← readEntries fs "versions" "versions must be an array" addVersionJson p
  let p ← readEntries fs "variants" "variants must be an array" (addVariantJson name) p
  let p ← readEntries fs "depends_on" "depends_on must be an array" (addDependencyJson name) p
  readEntries fs "provides" "provides must be an array" addProvisionJson p

end Package

end BuildSpec
