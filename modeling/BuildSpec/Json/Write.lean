import BuildSpec.Json.Basic

/-!
# Writing documents

`Json.compact` writes a document on one line with no blanks; `Json.pretty` writes it over
several lines, indenting two spaces per level, with `": "` after a key and `[]` or `{}` for an
empty array or object. In a string the quote, the backslash and the control characters are
escaped, the latter as `\b`, `\f`, `\n`, `\r`, `\t` or `\u00xx`; every other character is
written as it is. Doubles are written in shortest form (`Layout.written`).
-/

namespace BuildSpec.Json

/-- The escaped form of one character in a written string. -/
def escapeChar (c : Char) : List Char :=
  match c with
  | '"' => ['\\', '"']
  | '\\' => ['\\', '\\']
  | '\x08' => ['\\', 'b']
  | '\x0c' => ['\\', 'f']
  | '\n' => ['\\', 'n']
  | '\r' => ['\\', 'r']
  | '\t' => ['\\', 't']
  | c =>
    if c.toNat < 0x20 then
      let h := Nat.toDigits 16 c.toNat
      ['\\', 'u', '0', '0'] ++ List.replicate (2 - h.length) '0' ++ h
    else [c]

/-- A written string, with its quotes. -/
def writeString (s : String) : String :=
  String.ofList ('"' :: (s.toList.flatMap escapeChar ++ ['"']))

/-- The written form of a number. -/
def writeNumber : Number → String
  | .nat n => toString n
  | .negInt n => toString n
  | .float x => x.toText Layout.written

mutual

/-- A document on one line. -/
def compact : Json → String
  | .null => "null"
  | .bool b => if b then "true" else "false"
  | .number n => writeNumber n
  | .string s => writeString s
  | .array xs => "[" ++ compactItems xs ++ "]"
  | .object fs => "\x7b" ++ compactFields fs ++ "\x7d"

/-- Array items separated by commas. -/
def compactItems : List Json → String
  | [] => ""
  | [x] => compact x
  | x :: xs => compact x ++ "," ++ compactItems xs

/-- Object fields separated by commas. -/
def compactFields : List (String × Json) → String
  | [] => ""
  | [(k, v)] => writeString k ++ ":" ++ compact v
  | (k, v) :: fs => writeString k ++ ":" ++ compact v ++ "," ++ compactFields fs

end

/-- A line break followed by the indentation of a level. -/
def indentLine (level : Nat) : String :=
  "\n" ++ String.ofList (List.replicate (2 * level) ' ')

mutual

/-- A document over several lines, its inner lines indented one level past `level`. -/
def prettyAt (level : Nat) : Json → String
  | .array [] => "[]"
  | .object [] => "\x7b\x7d"
  | .array xs => "[" ++ prettyItems (level + 1) xs ++ indentLine level ++ "]"
  | .object fs => "\x7b" ++ prettyFields (level + 1) fs ++ indentLine level ++ "\x7d"
  | v => compact v

/-- Array items, each on its own line. -/
def prettyItems (level : Nat) : List Json → String
  | [] => ""
  | [x] => indentLine level ++ prettyAt level x
  | x :: xs => indentLine level ++ prettyAt level x ++ "," ++ prettyItems level xs

/-- Object fields, each on its own line. -/
def prettyFields (level : Nat) : List (String × Json) → String
  | [] => ""
  | [(k, v)] => indentLine level ++ writeString k ++ ": " ++ prettyAt level v
  | (k, v) :: fs => indentLine level ++ writeString k ++ ": " ++ prettyAt level v ++ "," ++
      prettyFields level fs

end

/-- A document over several lines. -/
def pretty (v : Json) : String := prettyAt 0 v

end BuildSpec.Json
