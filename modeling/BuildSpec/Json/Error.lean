import BuildSpec.Json.Basic
import BuildSpec.Text.Quoted

/-!
# Document errors

A document fails to read with a `Json.SyntaxCode` at a line and a column; the column counts bytes
since the last line break. A document of the wrong shape for what is read from it fails with an
invalid type or an invalid length, which carry no position.
-/

namespace BuildSpec

/-- Why a document's text could not be read. -/
inductive Json.SyntaxCode where
  | eofValue | eofList | eofObject | eofString
  | expectedColon | expectedListCommaOrEnd | expectedObjectCommaOrEnd
  | expectedIdent | expectedValue
  | invalidEscape | invalidNumber | numberOutOfRange
  | controlCharacter | keyMustBeString | loneSurrogate | unexpectedEndOfHexEscape
  | trailingComma | trailingCharacters | recursionLimit
  deriving DecidableEq, Repr

/-- The sentence for a reading failure. -/
def Json.SyntaxCode.message : Json.SyntaxCode → String
  | .eofValue => "EOF while parsing a value"
  | .eofList => "EOF while parsing a list"
  | .eofObject => "EOF while parsing an object"
  | .eofString => "EOF while parsing a string"
  | .expectedColon => "expected `:`"
  | .expectedListCommaOrEnd => "expected `,` or `]`"
  | .expectedObjectCommaOrEnd => "expected `,` or `\x7d`"
  | .expectedIdent => "expected ident"
  | .expectedValue => "expected value"
  | .invalidEscape => "invalid escape"
  | .invalidNumber => "invalid number"
  | .numberOutOfRange => "number out of range"
  | .controlCharacter => "control character (\\u0000-\\u001F) found while parsing a string"
  | .keyMustBeString => "key must be a string"
  | .loneSurrogate => "lone leading surrogate in hex escape"
  | .unexpectedEndOfHexEscape => "unexpected end of hex escape"
  | .trailingComma => "trailing comma"
  | .trailingCharacters => "trailing characters"
  | .recursionLimit => "recursion limit exceeded"

/-- A failure to read a document, or to read a value of some shape out of one. -/
inductive Json.Error where
  | malformed (code : Json.SyntaxCode) (line col : Nat)
  /-- A value of the wrong kind: what was found, and a phrase for what was wanted. -/
  | invalidType (found : String) (wanted : String)
  /-- A sequence of the wrong length. -/
  | invalidLength (len : Nat) (wanted : String)
  /-- The text could not be read at all; the detail is the system's sentence. -/
  | unreadable (detail : String)
  deriving DecidableEq, Repr

/-- The message of a document error; a reading failure ends with its position. -/
def Json.Error.message : Json.Error → String
  | .malformed code line col => s!"{code.message} at line {line} column {col}"
  | .invalidType found wanted => s!"invalid type: {found}, expected {wanted}"
  | .invalidLength len wanted => s!"invalid length {len}, expected {wanted}"
  | .unreadable detail => detail

namespace Json

/-- How a value is named when it is not of the kind wanted: `integer` and `floating point` and
`boolean` with the value in backquotes, a string quoted. -/
def describe : Json → String
  | .null => "null"
  | .bool b => s!"boolean `{b}`"
  | .number (.nat n) => s!"integer `{n}`"
  | .number (.negInt n) => s!"integer `{n}`"
  | .number (.float x) => s!"floating point `{x.toText Layout.plain}`"
  | .string s => "string " ++ Text.quote s
  | .array _ => "sequence"
  | .object _ => "map"

end Json

end BuildSpec
