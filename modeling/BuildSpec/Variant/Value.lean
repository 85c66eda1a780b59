import BuildSpec.Error
import BuildSpec.Text.Blank

/-!
# Variant values and settings

A variant's value is a flag (`true` or `false`) or a set of texts, kept sorted and free of
repeats. Reading a value trims it; `true` and `false` in any case are flags, and anything else
is split at commas, each piece trimmed, so the empty text is the set holding the empty text.

A setting gives a value to a named variant. It is written `+name` or `~name` for a flag and
`name=a,b` for a set. One setting satisfies another when it holds at least the other's texts
(flags must be equal); two settings are compatible when they are equal or both sets, and
constraining one by another merges two sets and refuses a flag that differs.
-/

namespace BuildSpec.Variant

/-- Inserts a text into a sorted list without repeats. -/
def insertSorted (x : String) : List String → List String
  | [] => [x]
  | y :: ys => if x < y then x :: y :: ys else if x == y then y :: ys else y :: insertSorted x ys

/-- The sorted list of the distinct texts. -/
def sortedSet (xs : List String) : List String := xs.foldl (fun acc x => insertSorted x acc) []

/-- A variant's value: a flag, or a sorted set of texts. -/
inductive Value where
  | flag (b : Bool)
  | texts (vs : List String)
  deriving DecidableEq, Repr

namespace Value

/-- The set value holding these texts. -/
def ofTexts (xs : List String) : Value := .texts (sortedSet xs)

/-- Does the text spell the word, ignoring ASCII case. -/
def spells (s word : String) : Bool := s.toList.map Char.toLower == word.toList

/-- Reads a value: trimmed, `true`/`false` in any case as a flag, otherwise texts separated by
commas, each trimmed. -/
def parse (s : String) : Value :=
  let t := Text.trim s
  if spells t "true" then .flag true
  else if spells t "false" then .flag false
  else ofTexts ((Text.split ',' t).map Text.trim)

/-- Is this a flag. -/
def isFlag : Value → Bool
  | .flag _ => true
  | .texts _ => false

/-- The value as texts: a flag is `["true"]` or `["false"]`. -/
def strings : Value → List String
  | .flag b => [toString b]
  | .texts vs => vs

/-- The text of a value: `true`, `false`, or the texts joined by commas. -/
def text : Value → String
  | .flag b => toString b
  | .texts vs => ",".intercalate vs

end Value

/-- A value given to a named variant. -/
structure Setting where
  name : String
  value : Value
  deriving DecidableEq, Repr

namespace Setting

/-- The text of a setting: `+name`, `~name` or `name=a,b`. -/
def text (s : Setting) : String :=
  match s.value with
  | .flag true => "+" ++ s.name
  | .flag false => "~" ++ s.name
  | .texts vs => s.name ++ "=" ++ ",".intercalate vs

/-- Is `item` one of the values held; a flag holds its own word in any case. -/
def contains (s : Setting) (item : String) : Bool :=
  match s.value with
  | .flag b => Value.spells item (toString b)
  | .texts vs => vs.contains item

/-- Every value of `o` is also in `s`; flags must be equal. -/
def satisfies (s o : Setting) : Bool :=
  match s.value, o.value with
  | v, .flag b => v == .flag b
  | .flag _, .texts _ => false
  | .texts l, .texts r => r.all l.contains

/-- Equal values, or two sets. -/
def compatible (s o : Setting) : Bool :=
  s.value == o.value || (!s.value.isFlag && !o.value.isFlag)

/-- Merges the values of `o` into `s` when both are sets, and tells whether `s` changed; equal
flags leave it alone and any other pair fails. -/
def constrain (s o : Setting) : Except Error (Setting × Bool) :=
  match s.value, o.value with
  | .flag l, .flag r =>
    if l == r then .ok (s, false) else .error (.variantConflict o.text s.text)
  | .texts l, .texts r =>
    let merged := Value.ofTexts (l ++ r)
    .ok ({ s with value := merged }, merged != s.value)
  | _, _ => .error (.variantConflict o.text s.text)

end Setting

end BuildSpec.Variant
