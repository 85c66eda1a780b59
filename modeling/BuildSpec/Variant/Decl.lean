import BuildSpec.Variant.Settings
import BuildSpec.Pattern.Regex

/-!
# Variant declarations

A recipe declares each variant with a default value, a description, the values it allows and
whether only one value may be chosen (exclusive). Allowed values are a list, any integer (an
optional sign and decimal digits, within 64 bits), or the texts in which a regular expression
finds a match.

A declaration's default must be allowed. A setting is valid for a declaration when it names the
same variant, holds one value if the variant is exclusive, and holds only allowed values.
-/

namespace BuildSpec.Variant

/-- The values a variant allows. -/
inductive Allowed where
  | listed (values : List String)
  | integer
  /-- The texts the expression finds a match in; `source` is how it was written. -/
  | matching (source : String) (expr : Pattern.Regex)
  deriving Repr

namespace Allowed

/-- Allowed-value rules are equal when they are the same list, both integers, or patterns of
the same text. -/
def beq : Allowed → Allowed → Bool
  | .listed a, .listed b => a == b
  | .integer, .integer => true
  | .matching a _, .matching b _ => a == b
  | _, _ => false

instance : BEq Allowed := ⟨beq⟩

/-- A signed 64-bit integer in decimal: an optional `+` or `-`, then at least one digit. -/
def isInteger (s : String) : Bool :=
  let (neg, digits) := match s.toList with
    | '-' :: ds => (true, ds)
    | '+' :: ds => (false, ds)
    | ds => (false, ds)
  !digits.isEmpty && digits.all Char.isDigit &&
    (let n := digits.foldl (fun acc c => acc * 10 + (c.toNat - '0'.toNat)) 0
     if neg then n ≤ Nat.pow 2 63 else n < Nat.pow 2 63)

/-- Is one value allowed. -/
def accepts : Allowed → String → Bool
  | .listed vs, v => vs.contains v
  | .integer, v => isInteger v
  | .matching _ e, v => e.isMatch v

/-- A description of the allowed values. -/
def text : Allowed → String
  | .listed vs => ", ".intercalate vs
  | .integer => "any integer"
  | .matching src _ => "values matching /" ++ src ++ "/"

/-- The rule of a regular expression, or why it cannot be read. -/
def ofPattern (src : String) : Except Error Allowed :=
  match Pattern.Regex.compile src with
  | .ok e => .ok (.matching src e)
  | .error f => .error (.parse s!"invalid variant pattern \"{src}\": {f.message src}")

end Allowed

/-- A variant as a recipe declares it. -/
structure Decl where
  name : String
  default : Value
  description : String
  allowed : Allowed
  /-- Only one value may be chosen. -/
  exclusive : Bool
  deriving Repr

namespace Decl

instance : BEq Decl := ⟨fun a b => a.name == b.name && a.default == b.default &&
  a.description == b.description && a.allowed == b.allowed && a.exclusive == b.exclusive⟩

/-- The texts of a value that the declaration does not allow. -/
def invalidValues (d : Decl) (v : Value) : List String :=
  v.strings.filter (!d.allowed.accepts ·)

/-- A declaration whose default must be allowed. -/
def make (name : String) (default : Value) (description : String) (allowed : Allowed)
    (exclusive : Bool) : Except Error Decl :=
  let d : Decl := ⟨name, default, description, allowed, exclusive⟩
  match d.invalidValues default with
  | [] => .ok d
  | bad => .error (.invalidVariantValue name bad none)

/-- An on/off variant. -/
def flag (name : String) (default : Bool) (description : String) : Decl :=
  ⟨name, .flag default, description, .listed ["true", "false"], true⟩

/-- Is this an on/off variant. -/
def isFlag (d : Decl) : Bool := d.default.isFlag

/-- Checks a setting against the declaration; `package` names the package in messages. -/
def validate (d : Decl) (s : Setting) (package : Option String) : Except Error Unit :=
  if d.name != s.name then .error (.mismatchedValidator s.name d.name)
  else if d.exclusive && s.value.strings.length != 1 then .error (.multipleValues d.name package)
  else match d.invalidValues s.value with
    | [] => .ok ()
    | bad => .error (.invalidVariantValue d.name bad package)

/-- The setting of the default value. -/
def defaultSetting (d : Decl) : Setting := ⟨d.name, d.default⟩

/-- The text of a declaration: `name [default=D] (allowed)`, then ` multi` when more than one
value may be chosen. -/
def text (d : Decl) : String :=
  s!"{d.name} [default={d.default.text}] ({d.allowed.text})" ++ (if d.exclusive then "" else " multi")

end Decl

end BuildSpec.Variant
