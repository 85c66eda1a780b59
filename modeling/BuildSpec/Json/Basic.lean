import BuildSpec.Number.Shortest

/-!
# Documents

`Json` is a document value: null, a boolean, a number, a string, an array or an object. An
object holds its fields sorted by key with one field per key; `Json.Fields.insert` replaces the
value of a key that is already present, so a document that repeats a key keeps the last value.

A number is an unsigned 64-bit integer, a negative 64-bit integer or a double, as the reader
classifies it, and `Json.Number.toText` writes it as a variant value is written.
-/

namespace BuildSpec

/-- A number in a document: an integer below `2^64`, a negative integer down to `-2^63`, or a
double. -/
inductive Json.Number where
  | nat (n : Nat)
  | negInt (n : Int)
  | float (x : Binary64)
  deriving DecidableEq, Repr

/-- A document value. Object fields are sorted by key, one per key. -/
inductive Json where
  | null
  | bool (b : Bool)
  | number (n : Json.Number)
  | string (s : String)
  | array (items : List Json)
  | object (fields : List (String × Json))
  deriving Repr, BEq

namespace Json

/-- Object fields, sorted by key. -/
abbrev Fields := List (String × Json)

/-- Puts `v` under key `k`, replacing an earlier value and keeping the keys sorted. -/
def Fields.insert (k : String) (v : Json) : Fields → Fields
  | [] => [(k, v)]
  | (k', v') :: rest =>
    if k < k' then (k, v) :: (k', v') :: rest
    else if k == k' then (k, v) :: rest
    else (k', v') :: Fields.insert k v rest

/-- The value under key `k`. -/
def Fields.get? (fs : Fields) (k : String) : Option Json :=
  (fs.find? (·.1 == k)).map (·.2)

/-- An object built from fields in any order; a repeated key keeps its last value. -/
def obj (fs : List (String × Json)) : Json :=
  .object (fs.foldl (fun acc (k, v) => Fields.insert k v acc) [])

/-- The value under key `k`, when this is an object that has it. -/
def get? : Json → String → Option Json
  | .object fs, k => Fields.get? fs k
  | _, _ => none

/-- The text of a string value. -/
def asString? : Json → Option String
  | .string s => some s
  | _ => none

/-- The value of a boolean. -/
def asBool? : Json → Option Bool
  | .bool b => some b
  | _ => none

/-- The items of an array. -/
def asArray? : Json → Option (List Json)
  | .array xs => some xs
  | _ => none

/-- The fields of an object. -/
def asObject? : Json → Option Fields
  | .object fs => some fs
  | _ => none

/-- A string array as a list of texts. -/
def strings (xs : List String) : Json := .array (xs.map .string)

/-- A natural number. -/
def nat (n : Nat) : Json := .number (.nat n)

end Json

namespace Json.Number

/-- The text of a number: integers in decimal, doubles in shortest form with `.0` kept on whole
values and an exponent such as `e+23` outside `1e-4 ≤ |x| < 1e16`. -/
def toText : Json.Number → String
  | .nat n => toString n
  | .negInt n => toString n
  | .float x => x.toText Layout.number

/-- Is this a number with no fractional part. -/
def isWhole : Json.Number → Bool
  | .nat _ => true
  | .negInt _ => true
  | .float x =>
    -- whole exactly when the value has no bits below the units place
    if 0 ≤ x.exp then true else x.mant % Nat.pow 2 (-x.exp).toNat == 0

end Json.Number

end BuildSpec
