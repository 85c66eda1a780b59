import BuildSpec.Version.Constraint
import BuildSpec.Json.Error
import BuildSpec.Json.Read
import BuildSpec.Disk

/-!
# Version preferences

Preferences give, per package, an ordered list of version constraints; a version's rank is the
position of the first constraint that contains it. The list of a package replaces the list under
`all`, which applies to every package without its own.

The preferences document is `{"packages": {"<name>": {"version": ["<constraint>", ...]}}}`.
Both levels may also be written as arrays of their fields in order, and missing fields are
empty; a value of the wrong kind is reported with what was found and what was expected.
-/

namespace BuildSpec

/-- Ordered version constraints by package name, in name order. -/
structure Prefs where
  orders : List (String × List Version.Constraint) := []
  deriving Repr

namespace Prefs

/-- The name whose list applies to every package without its own. -/
def allPackages : String := "all"

/-- Sets the order of a package, replacing an earlier one. -/
def withOrder (p : Prefs) (pkg : String) (order : List Version.Constraint) : Prefs :=
  let rec put : List (String × List Version.Constraint) → List (String × List Version.Constraint)
    | [] => [(pkg, order)]
    | (k, o) :: rest => if pkg < k then (pkg, order) :: (k, o) :: rest
      else if pkg == k then (pkg, order) :: rest else (k, o) :: put rest
  ⟨put p.orders⟩

/-- The order that applies to a package. -/
def orderFor (p : Prefs) (pkg : String) : Option (List Version.Constraint) :=
  match p.orders.lookup pkg with
  | some o => some o
  | none => p.orders.lookup allPackages

/-- The position of the first preference that contains the version. -/
def rank (p : Prefs) (pkg : String) (v : Version) : Option Nat :=
  (p.orderFor pkg).bind fun o => o.findIdx? (·.contains v)

/-- The rank function of one package, its order looked up once. -/
def ranker (p : Prefs) (pkg : String) : Version → Option Nat :=
  let order := p.orderFor pkg
  fun v => order.bind fun o => o.findIdx? (·.contains v)

/-! ## The preferences document -/

/-- A record of fields read from an object, or from an array holding them in order. With an
array longer than the record, the array's length is returned too: that is reported only after
the fields themselves have been read. -/
def recordFields (v : Json) (fieldNames : List String) (what : String) :
    Except Json.Error (List (Option Json) × Option Nat) :=
  match v with
  | .object fs => .ok (fieldNames.map (Json.Fields.get? fs), none)
  | .array xs =>
    .ok (fieldNames.zipIdx.map (fun (_, i) => xs[i]?),
      if xs.length > fieldNames.length then some xs.length else none)
  | other => .error (.invalidType other.describe what)

/-- Fails for an array that held more than the record's fields. -/
def checkExcess : Option Nat → Except Json.Error Unit
  | some n => .error (.invalidLength n "fewer elements in array")
  | none => .ok ()

/-- A list of texts. -/
def textList (v : Json) : Except Json.Error (List String) :=
  match v with
  | .array xs => xs.mapM fun
    | .string s => .ok s
    | other => .error (.invalidType other.describe "a string")
  | other => .error (.invalidType other.describe "a sequence")

/-- The version list of one package section. -/
def sectionVersions (v : Json) : Except Json.Error (List String) := do
  let (fields, excess) ← recordFields v ["version"] "struct PackageSection"
  let versions ← match fields with
    | [some vs] => textList vs
    | _ => pure []
  checkExcess excess
  pure versions

/-- The sections of the document, in name order. -/
def sections (v : Json) : Except Json.Error (List (String × List String)) := do
  let (fields, excess) ← recordFields v ["packages"] "struct PrefsFile"
  let secs ← match fields with
    | [some (.object fs)] => fs.mapM fun (k, s) => do pure (k, ← sectionVersions s)
    | [some other] => throw (.invalidType other.describe "a map")
    | _ => pure []
  checkExcess excess
  pure secs

/-- Reads the preferences document; a package with an empty list has no order. -/
def ofJson (v : Json) : Except Error Prefs := do
  let secs ← (sections v).mapError Error.json
  secs.foldlM (fun p (name, texts) => do
    let order ← texts.mapM Version.Constraint.parse
    pure (if order.isEmpty then p else p.withOrder name order)) {}

/-- Reads the preferences document from a file. The file is opened first and then streamed
to the reader, so a directory opens and then fails as a document that cannot be read. -/
def load (d : Disk) (path : String) : Except Error Prefs := do
  match ← (d.openRead path).mapError Error.io with
  | .error e => throw (.json (.unreadable e.message))
  | .ok bytes =>
    let doc ← (Json.read .stream (textOfBytes bytes)).mapError Error.json
    ofJson doc

end Prefs

end BuildSpec
