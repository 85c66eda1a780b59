import BuildSpec.Json.Error

/-!
# Reading documents

`Json.read` reads a whole text as one document. The grammar is the usual one; what this module
pins down is where and how reading fails, since the failure is reported to the user as a
sentence with a line and a column:

* a failure at a character reports the position just after that character's first byte, and a
  line break there moves to the next line at column zero;
* a failure at the end of the text reports the end;
* arrays and objects nest at most 127 deep.

Numbers are classified as an unsigned integer, a negative integer, or a double. Integer digits
are gathered while they fit in 64 bits; digits beyond that only scale by ten, so a long integer
becomes a double computed from its first digits (`Binary64.ofDecimal`).
-/

namespace BuildSpec.Json

/-- A reading position: the line from 1 and the column in bytes. -/
structure Pos where
  line : Nat
  col : Nat
  deriving DecidableEq, Repr

namespace Pos

/-- The first position of a text. -/
def start : Pos := ⟨1, 0⟩

/-- The position after the whole character `c`. -/
def step (p : Pos) (c : Char) : Pos :=
  if c == '\n' then ⟨p.line + 1, 0⟩ else ⟨p.line, p.col + c.utf8Size⟩

/-- The position after the first byte of `c`, where a failure at `c` is reported. -/
def touch (p : Pos) (c : Char) : Pos :=
  if c == '\n' then ⟨p.line + 1, 0⟩ else ⟨p.line, p.col + 1⟩

/-- The position after all of `cs`. -/
def stepAll (p : Pos) (cs : List Char) : Pos := cs.foldl step p

end Pos

/-- The unread rest of a text and its position. -/
structure Cursor where
  rest : List Char
  pos : Pos

/-- How the text reaches the reader. A text held whole is checked for four remaining bytes
before a `\u` escape is read; a streamed one is read a byte at a time, so an invalid hex digit
before the end is reported as such. -/
inductive Source where
  | whole
  | stream
  deriving DecidableEq, Repr

/-- A reading step: a value and the cursor after it. -/
abbrev Step (α : Type) := Except Error (α × Cursor)

/-- A reading failure at a position. -/
def fail {α : Type} (code : SyntaxCode) (p : Pos) : Except Error α :=
  .error (.malformed code p.line p.col)

/-- Blanks between tokens: space, line feed, tab and carriage return. -/
def isSpace (c : Char) : Bool := c == ' ' || c == '\n' || c == '\t' || c == '\r'

/-- Skips blanks between tokens. -/
def skipSpace : List Char → Pos → Cursor
  | c :: cs, p => if isSpace c then skipSpace cs (p.step c) else ⟨c :: cs, p⟩
  | [], p => ⟨[], p⟩

/-- Reads the rest of a keyword. -/
def expectWord : List Char → List Char → Pos → Except Error Cursor
  | [], cs, p => .ok ⟨cs, p⟩
  | _ :: _, [], p => fail .eofValue p
  | e :: es, c :: cs, p => if c == e then expectWord es cs (p.step c) else fail .expectedIdent (p.touch c)

/-! ## Numbers -/

/-- An ASCII digit. -/
def isDigit (c : Char) : Bool := '0' ≤ c && c ≤ '9'

/-- The value of an ASCII digit. -/
def digitVal (c : Char) : Nat := c.toNat - '0'.toNat

/-- `a * 10 + d` would exceed `lim`. -/
def overflows (a d lim : Nat) : Bool := a ≥ lim / 10 && (a > lim / 10 || d > lim % 10)

/-- The largest unsigned 64-bit integer. -/
def u64Max : Nat := Nat.pow 2 64 - 1

/-- The largest signed 32-bit integer, the bound of an exponent. -/
def i32Max : Nat := Nat.pow 2 31 - 1

/-- Clamps to the signed 32-bit range. -/
def saturate32 (i : Int) : Int := max (-2147483648) (min 2147483647 i)

/-- Skips digits. -/
def skipDigits : List Char → Pos → Cursor
  | c :: cs, p => if isDigit c then skipDigits cs (p.step c) else ⟨c :: cs, p⟩
  | [], p => ⟨[], p⟩

/-- A signed zero double. -/
def signedZero (neg : Bool) : Number := .float { Binary64.zero with neg := neg }

/-- The double `±sig · 10^exp`, or a failure when it is too large. A streamed text has already
pulled the byte after the number when the failure is found, so its position counts that byte. -/
def fromParts (src : Source) (neg : Bool) (sig : Nat) (exp : Int) (cur : Cursor) : Step Number :=
  match Binary64.ofDecimal neg sig exp with
  | some x => .ok (.float x, cur)
  | none =>
    match src, cur.rest with
    | .stream, c :: _ => fail .numberOutOfRange (cur.pos.touch c)
    | _, _ => fail .numberOutOfRange cur.pos

/-- Exponent digits after the first: the value so far, or the cursor just after a digit that
made it overflow. -/
def expDigits (e : Nat) : List Char → Pos → Cursor ⊕ (Nat × Cursor)
  | c :: cs, p =>
    if isDigit c then
      if overflows e (digitVal c) i32Max then .inl ⟨cs, p.step c⟩
      else expDigits (e * 10 + digitVal c) cs (p.step c)
    else .inr (e, ⟨c :: cs, p⟩)
  | [], p => .inr (e, ⟨[], p⟩)

/-- Reads an exponent part; the cursor is on the `e`. -/
def readExponent (src : Source) (neg : Bool) (sig : Nat) (start : Int) (cur : Cursor) : Step Number :=
  let afterMark : List Char := cur.rest.drop 1
  let p0 := cur.pos.step 'e'
  let (positive, cs, p) : Bool × List Char × Pos := match afterMark with
    | '+' :: r => (true, r, p0.step '+')
    | '-' :: r => (false, r, p0.step '-')
    | r => (true, r, p0)
  match cs with
  | [] => fail .eofValue p
  | c :: r =>
    if isDigit c then
      match expDigits (digitVal c) r (p.step c) with
      | .inl after =>
        if sig != 0 && positive then fail .numberOutOfRange after.pos
        else .ok (signedZero neg, skipDigits after.rest after.pos)
      | .inr (e, after) =>
        fromParts src neg sig (saturate32 (if positive then start + e else start - e)) after
    else fail .invalidNumber (p.touch c)

/-- A number ends with an exponent part or nothing more. -/
def finishNumber (src : Source) (neg : Bool) (sig : Nat) (exp : Int) (cur : Cursor) : Step Number :=
  match cur.rest with
  | 'e' :: _ | 'E' :: _ => readExponent src neg sig exp cur
  | _ => fromParts src neg sig exp cur

/-- Fraction digits while the significand fits: significand, digits taken, cursor, and whether
a digit was left because it would overflow. -/
def fracDigits (sig k : Nat) : List Char → Pos → Nat × Nat × Cursor × Bool
  | c :: cs, p =>
    if isDigit c then
      if overflows sig (digitVal c) u64Max then (sig, k, ⟨c :: cs, p⟩, true)
      else fracDigits (sig * 10 + digitVal c) (k + 1) cs (p.step c)
    else (sig, k, ⟨c :: cs, p⟩, false)
  | [], p => (sig, k, ⟨[], p⟩, false)

/-- Reads a fraction; the cursor is on the point. -/
def readFraction (src : Source) (neg : Bool) (sig : Nat) (before : Int) (cur : Cursor) : Step Number :=
  let (sigAll, k, after, overflowed) := fracDigits sig 0 (cur.rest.drop 1) (cur.pos.step '.')
  if overflowed then
    let rest := skipDigits after.rest after.pos
    finishNumber src neg sigAll (before - k) rest
  else if k == 0 then
    match after.rest with
    | c :: _ => fail .invalidNumber (after.pos.touch c)
    | [] => fail .eofValue after.pos
  else finishNumber src neg sigAll (before - k) after

/-- Digits past 64 bits: each scales the significand by ten. -/
def longDigits (n : Nat) : List Char → Pos → Nat × Cursor
  | c :: cs, p => if isDigit c then longDigits (n + 1) cs (p.step c) else (n, ⟨c :: cs, p⟩)
  | [], p => (n, ⟨[], p⟩)

/-- What follows the integer digits of a number. -/
def afterInteger (src : Source) (neg : Bool) (sig : Nat) (cur : Cursor) : Step Number :=
  match cur.rest with
  | '.' :: _ => readFraction src neg sig 0 cur
  | 'e' :: _ | 'E' :: _ => readExponent src neg sig 0 cur
  | _ =>
    if !neg then .ok (.nat sig, cur)
    else if sig == 0 then .ok (signedZero true, cur)
    else if sig ≤ Nat.pow 2 63 then .ok (.negInt (-(sig : Int)), cur)
    else .ok (.float (Binary64.ofNat sig).negate, cur)

/-- Integer digits while they fit in 64 bits. -/
def intDigits (src : Source) (neg : Bool) (sig : Nat) : List Char → Pos → Step Number
  | c :: cs, p =>
    if isDigit c then
      if overflows sig (digitVal c) u64Max then
        let (n, after) := longDigits 0 (c :: cs) p
        match after.rest with
        | '.' :: _ => readFraction src neg sig n after
        | _ => finishNumber src neg sig n after
      else intDigits src neg (sig * 10 + digitVal c) cs (p.step c)
    else afterInteger src neg sig ⟨c :: cs, p⟩
  | [], p => afterInteger src neg sig ⟨[], p⟩

/-- Reads a number after its sign. -/
def readNumber (src : Source) (neg : Bool) (cur : Cursor) : Step Number :=
  match cur.rest with
  | [] => fail .eofValue cur.pos
  | c :: cs =>
    let p := cur.pos.step c
    if c == '0' then
      match cs with
      | d :: _ => if isDigit d then fail .invalidNumber (p.touch d) else afterInteger src neg 0 ⟨cs, p⟩
      | [] => afterInteger src neg 0 ⟨cs, p⟩
    else if isDigit c then intDigits src neg (digitVal c) cs p
    else fail .invalidNumber (cur.pos.touch c)

/-! ## Strings -/

/-- The value of a hexadecimal digit. -/
def hexVal (c : Char) : Option Nat :=
  if isDigit c then some (digitVal c)
  else if 'a' ≤ c && c ≤ 'f' then some (c.toNat - 'a'.toNat + 10)
  else if 'A' ≤ c && c ≤ 'F' then some (c.toNat - 'A'.toNat + 10)
  else none

/-- Do the first characters of `cs` make up at least `n` bytes. -/
def hasBytes : Nat → List Char → Bool
  | 0, _ => true
  | _ + 1, [] => false
  | n + 1, c :: cs => c.utf8Size ≥ n + 1 || hasBytes (n + 1 - c.utf8Size) cs

/-- Four hexadecimal digits, one at a time. -/
def hexDigits : Nat → Nat → List Char → Pos → Except Error (Nat × Cursor)
  | 0, acc, cs, p => .ok (acc, ⟨cs, p⟩)
  | _ + 1, _, [], p => fail .eofString p
  | k + 1, acc, c :: cs, p =>
    match hexVal c with
    | some v => hexDigits k (acc * 16 + v) cs (p.step c)
    | none => fail .invalidEscape (p.touch c)

/-- The four hexadecimal digits of a `\u` escape. -/
def readHex4 (src : Source) (cur : Cursor) : Except Error (Nat × Cursor) :=
  if src == .whole && !hasBytes 4 cur.rest then fail .eofString (cur.pos.stepAll cur.rest)
  else hexDigits 4 0 cur.rest cur.pos

/-- One expected character of a surrogate pair's second half. -/
def expectPairChar (e : Char) (cur : Cursor) : Except Error Cursor :=
  match cur.rest with
  | [] => fail .eofString cur.pos
  | c :: cs => if c == e then .ok ⟨cs, cur.pos.step c⟩ else fail .unexpectedEndOfHexEscape (cur.pos.touch c)

/-- Reads a `\u` escape, and the second half of a surrogate pair when the first is a high half. -/
def readUnicodeEscape (src : Source) (cur : Cursor) : Except Error (Char × Cursor) := do
  let (n, cur) ← readHex4 src cur
  if 0xDC00 ≤ n && n ≤ 0xDFFF then fail .loneSurrogate cur.pos
  else if 0xD800 ≤ n && n ≤ 0xDBFF then
    let cur ← expectPairChar '\\' cur
    let cur ← expectPairChar 'u' cur
    let (n2, cur) ← readHex4 src cur
    if n2 < 0xDC00 || 0xDFFF < n2 then fail .loneSurrogate cur.pos
    else .ok (Char.ofNat (((n - 0xD800) * 0x400 + (n2 - 0xDC00)) + 0x10000), cur)
  else .ok (Char.ofNat n, cur)

/-- Reads one escape after its backslash. -/
def readEscape (src : Source) (cur : Cursor) : Except Error (Char × Cursor) :=
  match cur.rest with
  | [] => fail .eofString cur.pos
  | c :: cs =>
    let next : Cursor := ⟨cs, cur.pos.step c⟩
    match c with
    | '"' => .ok ('"', next)
    | '\\' => .ok ('\\', next)
    | '/' => .ok ('/', next)
    | 'b' => .ok ('\x08', next)
    | 'f' => .ok ('\x0c', next)
    | 'n' => .ok ('\n', next)
    | 'r' => .ok ('\r', next)
    | 't' => .ok ('\t', next)
    | 'u' => readUnicodeEscape src next
    | _ => fail .invalidEscape (cur.pos.touch c)

/-- Reads the rest of a string after its opening quote; `acc` holds the characters so far in
reverse. -/
def readString (src : Source) : Nat → List Char → Cursor → Step String
  | 0, _, cur => fail .eofString cur.pos
  | fuel + 1, acc, cur =>
    match cur.rest with
    | [] => fail .eofString cur.pos
    | c :: cs =>
      if c == '"' then .ok (String.ofList acc.reverse, ⟨cs, cur.pos.step c⟩)
      else if c == '\\' then
        match readEscape src ⟨cs, cur.pos.step c⟩ with
        | .ok (e, cur') => readString src fuel (e :: acc) cur'
        | .error err => .error err
      else if c.toNat < 0x20 then fail .controlCharacter (cur.pos.step c)
      else readString src fuel (c :: acc) ⟨cs, cur.pos.step c⟩

/-! ## Values -/

mutual

/-- Reads one value after optional blanks; `depth` is how many more arrays or objects may open. -/
def readValue (src : Source) : Nat → Nat → Cursor → Step Json
  | 0, _, cur => fail .eofValue cur.pos
  | fuel + 1, depth, cur =>
    let cur := skipSpace cur.rest cur.pos
    match cur.rest with
    | [] => fail .eofValue cur.pos
    | c :: cs =>
      let next : Cursor := ⟨cs, cur.pos.step c⟩
      match c with
      | 'n' => (expectWord ['u', 'l', 'l'] next.rest next.pos).map fun r => (.null, r)
      | 't' => (expectWord ['r', 'u', 'e'] next.rest next.pos).map fun r => (.bool true, r)
      | 'f' => (expectWord ['a', 'l', 's', 'e'] next.rest next.pos).map fun r => (.bool false, r)
      | '-' => (readNumber src true next).map fun (n, r) => (.number n, r)
      | '"' => (readString src fuel [] next).map fun (s, r) => (.string s, r)
      | '[' =>
        if depth ≤ 1 then fail .recursionLimit (cur.pos.touch c)
        else (readItems src fuel (depth - 1) true [] next).map fun (xs, r) => (.array xs, r)
      | '{' =>
        if depth ≤ 1 then fail .recursionLimit (cur.pos.touch c)
        else (readFields src fuel (depth - 1) true [] next).map fun (fs, r) => (.object fs, r)
      | _ =>
        if isDigit c then (readNumber src false cur).map fun (n, r) => (.number n, r)
        else fail .expectedValue (cur.pos.touch c)

/-- Reads array items up to and including the closing bracket; `acc` holds the items so far in
reverse. -/
def readItems (src : Source) : Nat → Nat → Bool → List Json → Cursor → Step (List Json)
  | 0, _, _, _, cur => fail .eofList cur.pos
  | fuel + 1, depth, first, acc, cur =>
    let cur := skipSpace cur.rest cur.pos
    match cur.rest with
    | [] => fail .eofList cur.pos
    | c :: cs =>
      if c == ']' then .ok (acc.reverse, ⟨cs, cur.pos.step c⟩)
      else
        let start : Except Error Cursor :=
          if c == ',' && !first then .ok (skipSpace cs (cur.pos.step c))
          else if first then .ok cur
          else fail .expectedListCommaOrEnd (cur.pos.touch c)
        match start with
        | .error e => .error e
        | .ok item =>
          match item.rest with
          | [] => fail .eofValue item.pos
          | ']' :: _ => fail .trailingComma (item.pos.touch ']')
          | _ =>
            match readValue src fuel depth item with
            | .ok (v, after) => readItems src fuel depth false (v :: acc) after
            | .error e => .error e

/-- Reads object fields up to and including the closing brace; a repeated key keeps its last
value. -/
def readFields (src : Source) : Nat → Nat → Bool → Fields → Cursor → Step Fields
  | 0, _, _, _, cur => fail .eofObject cur.pos
  | fuel + 1, depth, first, acc, cur =>
    let cur := skipSpace cur.rest cur.pos
    match cur.rest with
    | [] => fail .eofObject cur.pos
    | c :: cs =>
      if c == '}' then .ok (acc, ⟨cs, cur.pos.step c⟩)
      else
        let start : Except Error Cursor :=
          if c == ',' && !first then .ok (skipSpace cs (cur.pos.step c))
          else if first then .ok cur
          else fail .expectedObjectCommaOrEnd (cur.pos.touch c)
        match start with
        | .error e => .error e
        | .ok keyAt =>
          match keyAt.rest with
          | [] => fail .eofValue keyAt.pos
          | '"' :: ks =>
            match readString src fuel [] ⟨ks, keyAt.pos.step '"'⟩ with
            | .error e => .error e
            | .ok (k, afterKey) =>
              let colon := skipSpace afterKey.rest afterKey.pos
              match colon.rest with
              | [] => fail .eofObject colon.pos
              | ':' :: vs =>
                match readValue src fuel depth ⟨vs, colon.pos.step ':'⟩ with
                | .ok (v, after) => readFields src fuel depth false (Fields.insert k v acc) after
                | .error e => .error e
              | d :: _ => fail .expectedColon (colon.pos.touch d)
          | '}' :: _ => fail .trailingComma (keyAt.pos.touch '}')
          | d :: _ => fail .keyMustBeString (keyAt.pos.touch d)

end

/-- Reads a whole text as one document; blanks may surround it and nothing else may follow. -/
def read (src : Source) (text : String) : Except Error Json :=
  let cs := text.toList
  match readValue src (2 * cs.length + 8) 128 ⟨cs, Pos.start⟩ with
  | .error e => .error e
  | .ok (v, cur) =>
    match skipSpace cur.rest cur.pos with
    | ⟨[], _⟩ => .ok v
    | ⟨c :: _, p⟩ => fail .trailingCharacters (p.touch c)

end BuildSpec.Json
