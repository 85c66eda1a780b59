import BuildSpec.Text.Hidden

/-!
# Quoted text in messages

Messages quote a value as a double-quoted string in which a quote, a backslash and the hidden
characters (`Text.isHiddenCode`) are escaped: `\t`, `\r`, `\n` and `\0` by name, the others
as `\u{hex}`. A single quote stands as itself. Lists of values are written `["a", "b"]`.
-/

namespace BuildSpec.Text

/-- Lower-case hexadecimal digits of a natural. -/
def hexDigits (n : Nat) : List Char :=
  (Nat.toDigits 16 n).map Char.toLower

/-- The escaped form of one character inside a quoted text. -/
def escapeChar (c : Char) : List Char :=
  match c with
  | '\t' => ['\\', 't']
  | '\r' => ['\\', 'r']
  | '\n' => ['\\', 'n']
  | '\\' => ['\\', '\\']
  | '"' => ['\\', '"']
  | c =>
    if c.toNat == 0 then ['\\', '0']
    else if isHiddenCode c.toNat then ['\\', 'u', '\x7b'] ++ hexDigits c.toNat ++ ['\x7d']
    else [c]

/-- A text in double quotes with its special characters escaped. -/
def quote (s : String) : String :=
  String.ofList ('"' :: (s.toList.flatMap escapeChar ++ ['"']))

/-- A list of texts written as `["a", "b"]`. -/
def quoteList (xs : List String) : String :=
  "[" ++ ", ".intercalate (xs.map quote) ++ "]"

end BuildSpec.Text
