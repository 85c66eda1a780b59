import BuildSpec.Error
import BuildSpec.Text.Blank

/-!
# Versions

A version is the text it was written as together with its parts. The text is split at `.`,
`-` and `_`, and between a digit and a letter, so `1.2rc3` has the parts `1`, `2`, `rc`, `3`.
Versions are compared by their parts: a run of letters is below any number, numbers compare by
value and letters by their characters, and a version that is a prefix of another is the smaller.
The version `develop` is above every other.

Two versions whose parts agree are equal even when their texts differ (`1.0` and `1.00`), so
`Version` has the equality `==` of its order, not the structural one, and hashes its parts only.
-/

namespace BuildSpec

/-- One part of a version: a run of letters or a number. -/
inductive Version.Part where
  | alpha (s : String)
  | num (n : Nat)
  deriving DecidableEq, Hashable, Repr

namespace Version.Part

/-- Letters sort below numbers; numbers by value, letters by their characters. -/
def compare : Version.Part → Version.Part → Ordering
  | .alpha a, .alpha b => Ord.compare a b
  | .alpha _, .num _ => .lt
  | .num _, .alpha _ => .gt
  | .num a, .num b => Ord.compare a b

instance : Ord Version.Part := ⟨compare⟩

end Version.Part

/-- A version: its text, trimmed, and its parts. -/
structure Version where
  text : String
  parts : List Version.Part
  deriving Repr

namespace Version

/-- The name of the development branch. -/
def developName : String := "develop"

/-- The development branch, above every other version. -/
def develop : Version := ⟨developName, [.alpha developName]⟩

/-- Is this the development branch. -/
def isDevelop (v : Version) : Bool := v.text == developName

/-- The order of versions. -/
def compare (a b : Version) : Ordering :=
  match a.isDevelop, b.isDevelop with
  | true, true => .eq
  | true, false => .gt
  | false, true => .lt
  | false, false => Ord.compare a.parts b.parts

instance : Ord Version := ⟨compare⟩

/-- Equality in the order of versions. -/
instance : BEq Version := ⟨fun a b => compare a b == .eq⟩

/-- A version hashes its parts alone, not its text, which equal versions need not share. -/
instance : Hashable Version := ⟨fun v => hash v.parts⟩

/-- The largest number a numeric part may have. -/
def partLimit : Nat := Nat.pow 2 64

/-- Ends the part being gathered (its characters are in `buf`, reversed). -/
def flushPart (buf : List Char) (parts : List Part) : Except Error (List Part) :=
  if buf.isEmpty then .ok parts
  else
    let cs := buf.reverse
    if cs.all Char.isDigit then
      let n := cs.foldl (fun acc c => acc * 10 + (c.toNat - '0'.toNat)) 0
      if n < partLimit then .ok (.num n :: parts)
      else .error (.parse s!"version component \"{String.ofList cs}\" is too large: number too large to fit in target type")
    else .ok (.alpha (String.ofList cs) :: parts)

/-- Splits the characters of `text` into parts; `buf` is the part being gathered, reversed, and
`parts` the finished ones, reversed. -/
def splitParts (text : String) : List Char → List Char → List Part → Except Error (List Part)
  | [], buf, parts => flushPart buf parts
  | c :: cs, buf, parts =>
    if c == '.' || c == '-' || c == '_' then
      match flushPart buf parts with
      | .ok parts => splitParts text cs [] parts
      | .error e => .error e
    else if c.isAlphanum then
      match buf with
      | last :: _ =>
        if last.isDigit != c.isDigit then
          match flushPart buf parts with
          | .ok parts => splitParts text cs [c] parts
          | .error e => .error e
        else splitParts text cs (c :: buf) parts
      | [] => splitParts text cs [c] parts
    else .error (.parse s!"invalid character '{c}' in version \"{text}\"")

/-- Reads a version from its text, ignoring blanks around it. -/
def parse (input : String) : Except Error Version :=
  let text := Text.trim input
  if text.isEmpty then .error (.parse "version can't be empty")
  else
    match splitParts text text.toList [] [] with
    | .error e => .error e
    | .ok [] => .error (.parse s!"version \"{text}\" has no components")
    | .ok parts => .ok ⟨text, parts.reverse⟩

end Version

end BuildSpec
