import BuildSpec.Text.Blank
import BuildSpec.Unicode.Property

/-!
# Regular expressions: syntax

A variant may restrict its values by a regular expression. This module holds the syntax trees
of expressions (`Pattern.Ast`) and their reader, `Pattern.parse`, which either gives a tree or a
`Pattern.Failure`: what is wrong and which characters of the text are at fault.

The syntax is the common one: literals and escapes, `.`, bracketed classes with ranges,
negation, nested brackets, the operations `&&`, `--` and `~~`, and named ASCII classes, the
classes `\d`, `\w`, `\s` and their complements, Unicode property classes `\pL`, `\p{Greek}`,
`\p{Script=Greek}` and their complements `\P...`, the anchors `^`, `$`, `\A`, `\z`, `\b`, `\B`, the
word edges `\<`, `\>` and `\b{start}`, `\b{end}`, `\b{start-half}`, `\b{end-half}`, groups `( )`,
`(?: )`, named groups `(?P<name> )` and `(?<name> )`, flag groups such as `(?i)`, alternation, and
the repetitions `*`, `+`, `?`, `{n}`, `{n,}`, `{n,m}`, each optionally lazy. Any ASCII character
other than a letter, a digit, `<` and `>` may be escaped to stand for itself. A failure is
reported as the first fault met reading left to right, except that a group left open is reported
at its `(` when the text ends.

The tree keeps what later stages need: the span of every node (faults found later point at
them), the flags in force at each leaf, and the shape in which groups, sequences, alternatives
and classes nest (the nesting depth is limited, see `Pattern.Nest`). A sequence of one element is
that element, as is a class union of one item.
-/

namespace BuildSpec.Pattern

/-- The named classes of ASCII characters, as in `[[:alpha:]]`. -/
inductive AsciiClass where
  | alnum | alpha | ascii | blank | cntrl | digit | graph | lower | print | punct | space
  | upper | word | xdigit
  deriving DecidableEq, Repr

/-- The shorthand classes: decimal digits `\d`, word characters `\w`, blanks `\s`. -/
inductive Shorthand where
  | digit | word | space
  deriving DecidableEq, Repr

/-- An operation between two sets of a bracketed class: `&&`, `--` or `~~`. -/
inductive SetOp where
  | intersection | difference | symmetricDifference
  deriving DecidableEq, Repr

/-- The operation written by a doubled character. -/
def SetOp.ofSign : Char → Option SetOp
  | '&' => some .intersection
  | '-' => some .difference
  | '~' => some .symmetricDifference
  | _ => none

/-- A position test as written. -/
inductive Assertion where
  /-- `^`: the start of the text, or of a line when lines are on. -/
  | startLine
  /-- `$`: the end of the text, or of a line when lines are on. -/
  | endLine
  | startText | endText | wordBoundary | notWordBoundary
  /-- A word starts here: no word character before, one after. -/
  | wordStart
  /-- A word ends here: a word character before, none after. -/
  | wordEnd
  /-- No word character before. -/
  | wordStartHalf
  /-- No word character after. -/
  | wordEndHalf
  deriving DecidableEq, Repr

/-- What is wrong with an expression's text, or with what it asks for. -/
inductive Fault where
  | classEscapeInvalid | classRangeInvalid | classRangeLiteral | classUnclosed
  | decimalEmpty | decimalInvalid | escapeHexEmpty | escapeHexInvalid | escapeHexInvalidDigit
  | escapeUnexpectedEof | escapeUnrecognized | flagDanglingNegation | flagDuplicate
  | flagRepeatedNegation | flagUnexpectedEof | flagUnrecognized | groupNameDuplicate
  | groupNameEmpty | groupNameInvalid | groupNameUnexpectedEof | groupUnclosed | groupUnopened
  | nestLimitExceeded | repetitionCountInvalid | repetitionCountDecimalEmpty
  | repetitionCountUnclosed | repetitionMissing | specialWordBoundaryUnclosed
  | specialWordBoundaryUnrecognized | specialWordOrRepetitionUnexpectedEof | unicodeClassInvalid
  | unsupportedBackreference | unsupportedLookAround
  /-- The expression could match text that is not valid UTF-8. -/
  | invalidUtf8
  /-- A Unicode class or character where Unicode is turned off. -/
  | unicodeNotAllowed
  | unicodePropertyNotFound | unicodePropertyValueNotFound
  deriving DecidableEq, Repr

/-- The sentence for a fault. -/
def Fault.message : Fault → String
  | .classEscapeInvalid => "invalid escape sequence found in character class"
  | .classRangeInvalid => "invalid character class range, the start must be <= the end"
  | .classRangeLiteral => "invalid range boundary, must be a literal"
  | .classUnclosed => "unclosed character class"
  | .decimalEmpty => "decimal literal empty"
  | .decimalInvalid => "decimal literal invalid"
  | .escapeHexEmpty => "hexadecimal literal empty"
  | .escapeHexInvalid => "hexadecimal literal is not a Unicode scalar value"
  | .escapeHexInvalidDigit => "invalid hexadecimal digit"
  | .escapeUnexpectedEof => "incomplete escape sequence, reached end of pattern prematurely"
  | .escapeUnrecognized => "unrecognized escape sequence"
  | .flagDanglingNegation => "dangling flag negation operator"
  | .flagDuplicate => "duplicate flag"
  | .flagRepeatedNegation => "flag negation operator repeated"
  | .flagUnexpectedEof => "expected flag but got end of regex"
  | .flagUnrecognized => "unrecognized flag"
  | .groupNameDuplicate => "duplicate capture group name"
  | .groupNameEmpty => "empty capture group name"
  | .groupNameInvalid => "invalid capture group character"
  | .groupNameUnexpectedEof => "unclosed capture group name"
  | .groupUnclosed => "unclosed group"
  | .groupUnopened => "unopened group"
  | .nestLimitExceeded => "exceed the maximum number of nested parentheses/brackets (250)"
  | .repetitionCountInvalid => "invalid repetition count range, the start must be <= the end"
  | .repetitionCountDecimalEmpty => "repetition quantifier expects a valid decimal"
  | .repetitionCountUnclosed => "unclosed counted repetition"
  | .repetitionMissing => "repetition operator missing expression"
  | .specialWordBoundaryUnclosed =>
    "special word boundary assertion is either unclosed or contains an invalid character"
  | .specialWordBoundaryUnrecognized =>
    "unrecognized special word boundary assertion, valid choices are: start, end, start-half or end-half"
  | .specialWordOrRepetitionUnexpectedEof =>
    "found either the beginning of a special word boundary or a bounded repetition on a \\b with an opening brace, but no closing brace"
  | .unicodeClassInvalid => "invalid Unicode character class"
  | .unsupportedBackreference => "backreferences are not supported"
  | .unsupportedLookAround => "look-around, including look-ahead and look-behind, is not supported"
  | .invalidUtf8 => "pattern can match invalid UTF-8"
  | .unicodeNotAllowed => "Unicode not allowed here"
  | .unicodePropertyNotFound => "Unicode property not found"
  | .unicodePropertyValueNotFound => "Unicode property value not found"

/-- Characters `start ≤ i < stop` of the text, counted from zero. -/
structure Span where
  start : Nat
  stop : Nat
  deriving DecidableEq, Repr

/-- A fault and where it is; some faults also point at an earlier place. -/
structure Failure where
  fault : Fault
  span : Span
  aux : Option Span := none
  deriving Repr

/-- The flags in force. -/
structure Flags where
  fold : Bool := false
  multiLine : Bool := false
  dotNewline : Bool := false
  spaced : Bool := false
  /-- Lines may end with a carriage return as well as a line feed. -/
  crlf : Bool := false
  /-- Classes and case folding follow Unicode; when off they are ASCII only. -/
  unicode : Bool := true
  /-- Repetitions are lazy unless marked, rather than the other way round. -/
  swapGreed : Bool := false
  deriving DecidableEq, Repr

/-- A literal character: where it is written, which it is, and whether it is written as a
two-digit hexadecimal escape `\xNN`, which names a byte rather than a character when Unicode is
off. -/
structure Literal where
  span : Span
  char : Char
  byte : Bool
  deriving DecidableEq, Repr

/-- The body of a bracketed class. A body is a union of items; an operation joins the body
before it (itself possibly an operation) with the union after it. -/
inductive ClassTree where
  /-- A union of no items. -/
  | empty (span : Span)
  | literal (lit : Literal)
  | range (span : Span) (lo hi : Literal)
  | ascii (span : Span) (k : AsciiClass) (negated : Bool)
  | shorthand (span : Span) (k : Shorthand) (negated : Bool)
  | property (span : Span) (negated : Bool) (q : Unicode.Query)
  /-- A class in brackets, the outermost one included. -/
  | bracketed (span : Span) (negated : Bool) (body : ClassTree)
  | union (span : Span) (items : List ClassTree)
  | setOp (span : Span) (op : SetOp) (lhs rhs : ClassTree)
  deriving Repr

/-- Where a class item is written. -/
def ClassTree.span : ClassTree → Span
  | .empty s | .range s _ _ | .ascii s _ _ | .shorthand s _ _ | .property s _ _ | .bracketed s _ _
  | .union s _ | .setOp s _ _ _ => s
  | .literal l => l.span

/-- A syntax tree. Leaves carry the flags in force where they stand. -/
inductive Ast where
  | empty (span : Span)
  /-- A flag group such as `(?i)`: it matches the empty text and changes the flags after it. -/
  | flags (span : Span)
  | literal (lit : Literal) (flags : Flags)
  | dot (span : Span) (flags : Flags)
  | assertion (span : Span) (k : Assertion) (flags : Flags)
  | shorthand (span : Span) (k : Shorthand) (negated : Bool) (flags : Flags)
  | property (span : Span) (negated : Bool) (q : Unicode.Query) (flags : Flags)
  /-- A bracketed class; the tree is a `ClassTree.bracketed`. -/
  | cls (tree : ClassTree) (flags : Flags)
  | repetition (span : Span) (min : Nat) (max : Option Nat) (greedy : Bool) (sub : Ast)
  /-- A group; a capturing group has a number, counted from one in order of the openings, and
  perhaps a name. -/
  | group (span : Span) (capture : Option (Nat × Option String)) (sub : Ast)
  | alternation (span : Span) (alts : List Ast)
  | concat (span : Span) (items : List Ast)
  deriving Repr

/-- Where a node is written. -/
def Ast.span : Ast → Span
  | .empty s | .flags s | .dot s _ | .assertion s _ _ | .shorthand s _ _ _ | .property s _ _ _
  | .repetition s _ _ _ _ | .group s _ _ | .alternation s _ | .concat s _ => s
  | .literal l _ => l.span
  | .cls t _ => t.span

/-- The text being read. -/
structure Reader where
  text : Array Char

/-- A reading step from a position: a value and the next position, or a failure. -/
abbrev Read (α : Type) := Except Failure (α × Nat)

namespace Reader

/-- The character at a position. -/
def at? (r : Reader) (i : Nat) : Option Char := r.text[i]?

/-- The position after blanks and comments when whitespace is insignificant. -/
def skipSpaced (r : Reader) (flags : Flags) : Nat → Nat → Nat
  | 0, i => i
  | fuel + 1, i =>
    if !flags.spaced then i
    else match r.at? i with
      | some c =>
        if Text.isBlank c then r.skipSpaced flags fuel (i + 1)
        else if c == '#' then
          r.skipSpaced flags fuel ((((r.text.toList.drop i).takeWhile (· != '\n')).length) + i)
        else i
      | none => i

/-- Skips insignificant blanks from `i`. -/
def space (r : Reader) (flags : Flags) (i : Nat) : Nat := r.skipSpaced flags (r.text.size + 1) i

end Reader

/-- Characters that an escape turns into themselves. -/
def isMeta (c : Char) : Bool :=
  "\\.+*?()|[]{}^$#&-~".toList.contains c

/-- Characters that may be escaped needlessly: the ASCII characters other than letters, digits,
`<` and `>`, which stay free for escapes of their own. -/
def isEscapeable (c : Char) : Bool :=
  isMeta c || (c.toNat < 0x80 && !c.isAlphanum && c != '<' && c != '>')

/-- A hexadecimal digit. -/
def hexValue (c : Char) : Option Nat :=
  if '0' ≤ c && c ≤ '9' then some (c.toNat - '0'.toNat)
  else if 'a' ≤ c && c ≤ 'f' then some (c.toNat - 'a'.toNat + 10)
  else if 'A' ≤ c && c ≤ 'F' then some (c.toNat - 'A'.toNat + 10)
  else none

/-- A Unicode scalar value. -/
def isScalar (n : Nat) : Bool := n < 0xD800 || (0xDFFF < n && n ≤ 0x10FFFF)

/-- What an escape stands for. -/
inductive Escaped where
  /-- A character; `byte` marks the two-digit form `\xNN`. -/
  | char (c : Char) (byte : Bool)
  | shorthand (k : Shorthand) (negated : Bool)
  | property (negated : Bool) (q : Unicode.Query)
  | look (k : Assertion)
  deriving Repr

/-- Reads hexadecimal digits for a fixed-width escape, `k` more to go. -/
def hexFixed (r : Reader) (flags : Flags) (start : Nat) : Nat → Nat → Nat → Read Char
  | 0, acc, i =>
    if isScalar acc then .ok (Char.ofNat acc, i) else .error ⟨.escapeHexInvalid, ⟨start, i⟩, none⟩
  | k + 1, acc, i =>
    match r.at? i with
    | none => .error ⟨.escapeUnexpectedEof, ⟨i, i⟩, none⟩
    | some c =>
      match hexValue c with
      | none => .error ⟨.escapeHexInvalidDigit, ⟨i, i + 1⟩, none⟩
      | some v => hexFixed r flags start k (acc * 16 + v) (r.space flags (i + 1))

/-- Reads the digits of `\x{...}` after the brace; `digits` counts them. -/
def hexBrace (r : Reader) (flags : Flags) (bracePos : Nat) : Nat → Nat → Nat → Nat → Read Char
  | 0, _, _, i => .error ⟨.escapeUnexpectedEof, ⟨bracePos, i⟩, none⟩
  | fuel + 1, acc, digits, i =>
    match r.at? i with
    | none => .error ⟨.escapeUnexpectedEof, ⟨bracePos, i⟩, none⟩
    | some '}' =>
      if digits == 0 then .error ⟨.escapeHexEmpty, ⟨bracePos, i + 1⟩, none⟩
      else if isScalar acc then .ok (Char.ofNat acc, r.space flags (i + 1))
      else .error ⟨.escapeHexInvalid, ⟨bracePos + 1, i⟩, none⟩
    | some c =>
      match hexValue c with
      | none => .error ⟨.escapeHexInvalidDigit, ⟨i, i + 1⟩, none⟩
      | some v => hexBrace r flags bracePos fuel (acc * 16 + v) (digits + 1) (r.space flags (i + 1))

/-- A character of the name of a special word boundary. -/
def isBoundaryNameChar (c : Char) : Bool := ('a' ≤ c && c ≤ 'z') || ('A' ≤ c && c ≤ 'Z') || c == '-'

/-- Gathers the characters of a special word boundary's name from `i`; the name, reversed, and
the position after it. -/
def boundaryName (r : Reader) (flags : Flags) : Nat → List Char → Nat → List Char × Nat
  | 0, acc, i => (acc, i)
  | fuel + 1, acc, i =>
    match r.at? i with
    | some c => if isBoundaryNameChar c then boundaryName r flags fuel (c :: acc) (r.space flags (i + 1)) else (acc, i)
    | none => (acc, i)

/-- Reads `{start}`, `{end}`, `{start-half}` or `{end-half}` after `\b`; `wb` is the position of
the backslash and `i` that of the brace. Gives none when the brace is not followed by a name
character: the brace then begins a counted repetition of `\b`. -/
def readSpecialBoundary (r : Reader) (flags : Flags) (wb i : Nat) : Except Failure (Option (Assertion × Nat)) :=
  let j := r.space flags (i + 1)
  match r.at? j with
  | none => .error ⟨.specialWordOrRepetitionUnexpectedEof, ⟨wb, j⟩, none⟩
  | some c =>
    if !isBoundaryNameChar c then .ok none
    else
      let (name, k) := boundaryName r flags (r.text.size + 1) [] j
      if r.at? k != some '}' then .error ⟨.specialWordBoundaryUnclosed, ⟨i, k⟩, none⟩
      else match String.ofList name.reverse with
        | "start" => .ok (some (.wordStart, k + 1))
        | "end" => .ok (some (.wordEnd, k + 1))
        | "start-half" => .ok (some (.wordStartHalf, k + 1))
        | "end-half" => .ok (some (.wordEndHalf, k + 1))
        | _ => .error ⟨.specialWordBoundaryUnrecognized, ⟨j, k⟩, none⟩

/-- Gathers the characters of a property name in braces from `i`, blanks skipped when whitespace
is insignificant: the name, reversed, and the position of the closing brace or the end. -/
def braceName (r : Reader) (flags : Flags) : Nat → List Char → Nat → List Char × Nat
  | 0, acc, i => (acc, i)
  | fuel + 1, acc, i =>
    match r.at? i with
    | none => (acc, i)
    | some '}' => (acc, i)
    | some c => braceName r flags fuel (c :: acc) (r.space flags (i + 1))

/-- The position of the first `!=` in a list of characters, counting from `k`. -/
def notEqualAt : List Char → Nat → Option Nat
  | '!' :: '=' :: _, k => some k
  | _ :: rest, k => notEqualAt rest (k + 1)
  | [], _ => none

/-- The query a property name in braces makes, and whether it is written with `!=`, which turns
it into its complement: `name!=value`, `name:value`, `name=value` (tried in this order, each at
its first place), or a name alone. -/
def propertyQuery (cs : List Char) : Bool × Unicode.Query :=
  let split (k skip : Nat) : Unicode.Query :=
    .withValue (String.ofList (cs.take k)) (String.ofList (cs.drop (k + skip)))
  match notEqualAt cs 0 with
  | some k => (true, split k 2)
  | none =>
    match cs.findIdx? (· == ':') with
    | some k => (false, split k 1)
    | none =>
      match cs.findIdx? (· == '=') with
      | some k => (false, split k 1)
      | none => (false, .named (String.ofList cs))

/-- Reads a property class after `\p` or `\P`; `i` is the position of the backslash. -/
def readProperty (r : Reader) (flags : Flags) (negated : Bool) (i : Nat) : Read Escaped :=
  let j := r.space flags (i + 2)
  match r.at? j with
  | none => .error ⟨.escapeUnexpectedEof, ⟨j, j⟩, none⟩
  | some '{' =>
    let (name, k) := braceName r flags (r.text.size + 1) [] (r.space flags (j + 1))
    match r.at? k with
    | none => .error ⟨.escapeUnexpectedEof, ⟨k, k⟩, none⟩
    | some _ =>
      let (notEqual, q) := propertyQuery name.reverse
      .ok (.property (negated != notEqual) q, k + 1)
  | some '\\' => .error ⟨.unicodeClassInvalid, ⟨j, j + 1⟩, none⟩
  | some c => .ok (.property negated (.oneLetter c), r.space flags (j + 1))

/-- Reads an escape; `i` is the position of the backslash. -/
def readEscape (r : Reader) (flags : Flags) (i : Nat) : Read Escaped :=
  match r.at? (i + 1) with
  | none => .error ⟨.escapeUnexpectedEof, ⟨i, i + 1⟩, none⟩
  | some c =>
    let next := i + 2
    let span : Span := ⟨i, next⟩
    if '0' ≤ c && c ≤ '9' then .error ⟨.unsupportedBackreference, span, none⟩
    else match c with
    | 'x' | 'u' | 'U' =>
      let width := if c == 'x' then 2 else if c == 'u' then 4 else 8
      let j := r.space flags next
      match r.at? j with
      | none => .error ⟨.escapeUnexpectedEof, ⟨j, j⟩, none⟩
      | some '{' =>
        (hexBrace r flags j (r.text.size + 1) 0 0 (r.space flags (j + 1))).map fun (ch, k) => (.char ch false, k)
      | some _ => (hexFixed r flags j width 0 j).map fun (ch, k) => (.char ch (c == 'x'), k)
    | 'd' => .ok (.shorthand .digit false, next)
    | 'D' => .ok (.shorthand .digit true, next)
    | 'w' => .ok (.shorthand .word false, next)
    | 'W' => .ok (.shorthand .word true, next)
    | 's' => .ok (.shorthand .space false, next)
    | 'S' => .ok (.shorthand .space true, next)
    | 'p' => readProperty r flags false i
    | 'P' => readProperty r flags true i
    | _ =>
      if isEscapeable c then .ok (.char c false, next)
      else match c with
      | 'a' => .ok (.char '\x07' false, next)
      | 'f' => .ok (.char '\x0c' false, next)
      | 't' => .ok (.char '\t' false, next)
      | 'n' => .ok (.char '\n' false, next)
      | 'r' => .ok (.char '\r' false, next)
      | 'v' => .ok (.char '\x0b' false, next)
      | 'A' => .ok (.look .startText, next)
      | 'z' => .ok (.look .endText, next)
      | 'b' =>
        if r.at? next == some '{' then
          match readSpecialBoundary r flags i next with
          | .ok (some (k, j)) => .ok (.look k, j)
          | .ok none => .ok (.look .wordBoundary, next)
          | .error e => .error e
        else .ok (.look .wordBoundary, next)
      | 'B' => .ok (.look .notWordBoundary, next)
      | '<' => .ok (.look .wordStart, next)
      | '>' => .ok (.look .wordEnd, next)
      | _ => .error ⟨.escapeUnrecognized, span, none⟩

/-- The ASCII class named by a word. -/
def asciiClass? : String → Option AsciiClass
  | "alnum" => some .alnum | "alpha" => some .alpha | "ascii" => some .ascii
  | "blank" => some .blank | "cntrl" => some .cntrl | "digit" => some .digit
  | "graph" => some .graph | "lower" => some .lower | "print" => some .print
  | "punct" => some .punct | "space" => some .space | "upper" => some .upper
  | "word" => some .word | "xdigit" => some .xdigit | _ => none

/-- Reads `[:name:]` or `[:^name:]` at `i` (the `[`), if it is there. -/
def readAsciiClass (r : Reader) (i : Nat) : Option (ClassTree × Nat) :=
  let rest := r.text.toList.drop i
  match rest with
  | '[' :: ':' :: more =>
    let (neg, body) := match more with
      | '^' :: b => (true, b)
      | b => (false, b)
    let name := body.takeWhile (fun c => c != ':' && c != ']')
    match body.drop name.length with
    | ':' :: ']' :: _ =>
      match asciiClass? (String.ofList name) with
      | some k =>
        let stop := i + 2 + (if neg then 1 else 0) + name.length + 2
        some (.ascii ⟨i, stop⟩ k neg, stop)
      | none => none
    | _ => none
  | _ => none

/-- A single character of a class, a class item written as an escape, or a position test
(which a class refuses, found at the given span): one side of a possible range. -/
inductive ClassAtom where
  | lit (l : Literal)
  | item (it : ClassTree)
  | look (span : Span)

/-- Reads one atom of a class at `i`, which is not at the end. -/
def readClassAtom (r : Reader) (flags : Flags) (i : Nat) : Read ClassAtom :=
  match r.at? i with
  | some '\\' =>
    match readEscape r flags i with
    | .ok (.char c byte, j) => .ok (.lit ⟨⟨i, j⟩, c, byte⟩, j)
    | .ok (.shorthand k n, j) => .ok (.item (.shorthand ⟨i, j⟩ k n), j)
    | .ok (.property n q, j) => .ok (.item (.property ⟨i, j⟩ n q), j)
    | .ok (.look _, j) => .ok (.look ⟨i, j⟩, j)
    | .error e => .error e
  | some c => .ok (.lit ⟨⟨i, i + 1⟩, c, false⟩, i + 1)
  | none => .ok (.lit ⟨⟨i, i⟩, ' ', false⟩, i)

/-- An atom standing alone as a class item. -/
def atomItem : ClassAtom → Except Failure ClassTree
  | .lit l => .ok (.literal l)
  | .item it => .ok it
  | .look span => .error ⟨.classEscapeInvalid, span, none⟩

/-- The items of a union as one item: no item is an empty union at `start`, one item is itself. -/
def unionItem (start : Nat) : List ClassTree → ClassTree
  | [] => .empty ⟨start, start⟩
  | [it] => it
  | it :: rest =>
    .union ⟨it.span.start, (rest.foldl (fun _ x => x.span.stop) it.span.stop)⟩ (it :: rest)

/-- The union read so far (reversed in `acc`, begun at `start`), joined to the operation waiting
for it. -/
def closeUnion (pending : Option (SetOp × ClassTree)) (start : Nat) (acc : List ClassTree) : ClassTree :=
  let item := unionItem start acc.reverse
  match pending with
  | none => item
  | some (op, lhs) => .setOp ⟨lhs.span.start, item.span.stop⟩ op lhs item

/-- Reads literal dashes at the start of a class, each followed by blanks when whitespace is
insignificant; `start` is the position of the `[`. -/
def leadingDashes (r : Reader) (flags : Flags) (start : Nat) : Nat → List ClassTree → Nat →
    Except Failure (List ClassTree × Nat)
  | 0, acc, i => .ok (acc, i)
  | fuel + 1, acc, i =>
    if r.at? i == some '-' then
      let k := r.space flags (i + 1)
      if (r.at? k).isNone then .error ⟨.classUnclosed, ⟨start, start⟩, none⟩
      else leadingDashes r flags start fuel (.literal ⟨⟨i, i + 1⟩, '-', false⟩ :: acc) k
    else .ok (acc, i)

mutual

/-- Reads a bracketed class whose `[` is at `start`; `opens` holds the spans of the brackets
still open, innermost first, for the report of an unclosed class. -/
def readClass (r : Reader) (flags : Flags) (opens : List Span) : Nat → Nat → Read ClassTree
  | 0, _ => .error ⟨.classUnclosed, opens.headD ⟨0, 0⟩, none⟩
  | fuel + 1, start =>
    let i := r.space flags (start + 1)
    match r.at? i with
    | none => .error ⟨.classUnclosed, ⟨start, i⟩, none⟩
    | some c =>
      let (neg, j) := if c == '^' then (true, r.space flags (i + 1)) else (false, i)
      if neg && (r.at? j).isNone then .error ⟨.classUnclosed, ⟨start, j⟩, none⟩
      else
        match leadingDashes r flags start (r.text.size + 1) [] j with
        | .error e => .error e
        | .ok (lead, k) =>
          -- a `]` first in the class is literal
          let bracketFirst := lead.isEmpty && r.at? k == some ']'
          let lead := if bracketFirst then [.literal ⟨⟨k, k + 1⟩, ']', false⟩] else lead
          let k := if bracketFirst then r.space flags (k + 1) else k
          if (r.at? k).isNone then .error ⟨.classUnclosed, ⟨start, k⟩, none⟩
          else
            let here : Span := ⟨start, k⟩
            match readClassItems r flags (here :: opens) fuel none j lead k with
            | .ok (body, e) => .ok (.bracketed ⟨start, e⟩ neg body, e)
            | .error err => .error err

/-- Reads class items up to and including the closing `]`. `acc` holds the items of the union
being read, in reverse, begun at `ustart`; `pending` an operation waiting for its right side,
with its left side. -/
def readClassItems (r : Reader) (flags : Flags) (opens : List Span) : Nat → Option (SetOp × ClassTree) →
    Nat → List ClassTree → Nat → Read ClassTree
  | 0, _, _, _, _ => .error ⟨.classUnclosed, opens.headD ⟨0, 0⟩, none⟩
  | fuel + 1, pending, ustart, acc, i0 =>
    let i := r.space flags i0
    match r.at? i with
    | none => .error ⟨.classUnclosed, opens.headD ⟨0, 0⟩, none⟩
    | some ']' => .ok (closeUnion pending ustart acc, i + 1)
    | some '[' =>
      match readAsciiClass r i with
      | some (it, j) => readClassItems r flags opens fuel pending ustart (it :: acc) j
      | none =>
        match readClass r flags opens fuel i with
        | .ok (inner, j) => readClassItems r flags opens fuel pending ustart (inner :: acc) j
        | .error e => .error e
    | some c =>
      match (if r.at? (i + 1) == some c then SetOp.ofSign c else none) with
      | some op => readClassItems r flags opens fuel (some (op, closeUnion pending ustart acc)) (i + 2) [] (i + 2)
      | none =>
        match readClassAtom r flags i with
        | .error e => .error e
        | .ok (a, j0) =>
          let j := r.space flags j0
          let single : Read ClassTree := match atomItem a with
            | .ok it => readClassItems r flags opens fuel pending ustart (it :: acc) j
            | .error e => .error e
          match r.at? j with
          | none => .error ⟨.classUnclosed, opens.headD ⟨0, 0⟩, none⟩
          | some '-' =>
            let after := r.space flags (j + 1)
            if r.at? after == some ']' || r.at? after == some '-' then single
            else if (r.at? after).isNone then .error ⟨.classUnclosed, opens.headD ⟨0, 0⟩, none⟩
            else
              match readClassAtom r flags after with
              | .error e => .error e
              | .ok (b, k) =>
                match a, b with
                | .lit lo, .lit hi =>
                  if hi.char < lo.char then .error ⟨.classRangeInvalid, ⟨i, k⟩, none⟩
                  else readClassItems r flags opens fuel pending ustart (.range ⟨i, k⟩ lo hi :: acc) k
                | .lit _, _ => .error ⟨.classRangeLiteral, ⟨after, k⟩, none⟩
                | _, _ => .error ⟨.classRangeLiteral, ⟨i, j0⟩, none⟩
          | some _ => single

end

/-- The position after blanks, whatever the flags. -/
def skipBlanks (r : Reader) (i : Nat) : Nat :=
  i + ((r.text.toList.drop i).takeWhile Text.isBlank).length

/-- The position after blanks, stepping past each as a character of the pattern. -/
def skipTrailing (r : Reader) (flags : Flags) : Nat → Nat → Nat
  | 0, i => i
  | fuel + 1, i =>
    match r.at? i with
    | some c => if Text.isBlank c then skipTrailing r flags fuel (r.space flags (i + 1)) else i
    | none => i

/-- Gathers decimal digits from `i`: the digits, reversed, and the position after them. -/
def gatherDigits (r : Reader) (flags : Flags) : Nat → List Char → Nat → List Char × Nat
  | 0, acc, i => (acc, i)
  | fuel + 1, acc, i =>
    match r.at? i with
    | some c => if '0' ≤ c && c ≤ '9' then gatherDigits r flags fuel (c :: acc) (r.space flags (i + 1)) else (acc, i)
    | none => (acc, i)

/-- Reads a count of a counted repetition from `i0`, blanks around it allowed: the count or the
failure, and the position reached either way. -/
def readDecimal (r : Reader) (flags : Flags) (i0 : Nat) : Except Failure Nat × Nat :=
  let start := skipBlanks r i0
  let (digits, stop) := gatherDigits r flags (r.text.size + 1) [] start
  let after := skipTrailing r flags (r.text.size + 1) stop
  if digits.isEmpty then (.error ⟨.repetitionCountDecimalEmpty, ⟨start, stop⟩, none⟩, after)
  else
    let n := digits.reverse.foldl (fun acc c => acc * 10 + (c.toNat - '0'.toNat)) 0
    if n < Nat.pow 2 32 then (.ok n, after) else (.error ⟨.decimalInvalid, ⟨start, stop⟩, none⟩, after)

/-- Reads `{n}`, `{n,}` or `{n,m}` at `start` (the brace), with an optional lazy mark after it:
the bounds, whether it is lazy, and the next position. A fault in the first count is reported
only once it is known that the brace is closed or continues with a second count. -/
def readCount (r : Reader) (flags : Flags) (start : Nat) :
    Except Failure ((Nat × Option Nat) × Bool × Nat) := do
  let unclosed : Nat → Failure := fun p => ⟨.repetitionCountUnclosed, ⟨start, p⟩, none⟩
  let i := r.space flags (start + 1)
  if (r.at? i).isNone then throw (unclosed i)
  let (first, j) := readDecimal r flags i
  if (r.at? j).isNone then throw (unclosed j)
  let ((lo, hi), p) ← if r.at? j == some ',' then do
      let k := r.space flags (j + 1)
      if (r.at? k).isNone then throw (unclosed k)
      if r.at? k != some '}' then do
        let lo ← first
        let (second, m) := readDecimal r flags k
        let hi ← second
        pure ((lo, some hi), m)
      else do
        let lo ← first
        pure ((lo, none), k)
    else do
      let lo ← first
      pure ((lo, some lo), j)
  if r.at? p != some '}' then throw (unclosed p)
  let q := r.space flags (p + 1)
  let lazy := r.at? q == some '?'
  let stop := if lazy then q + 1 else q
  if let some h := hi then
    if h < lo then throw ⟨.repetitionCountInvalid, ⟨start, stop⟩, none⟩
  pure ((lo, hi), lazy, stop)

/-- Applies one flag letter. -/
def setFlag (f : Flags) (c : Char) (on : Bool) : Option Flags :=
  match c with
  | 'i' => some { f with fold := on }
  | 'm' => some { f with multiLine := on }
  | 's' => some { f with dotNewline := on }
  | 'x' => some { f with spaced := on }
  | 'R' => some { f with crlf := on }
  | 'u' => some { f with unicode := on }
  | 'U' => some { f with swapGreed := on }
  | _ => none

/-- Reads flag letters from `i` up to `:` or `)`: the new flags and the position of the ending
character. -/
def readFlags (r : Reader) (start : Flags) : Nat → Flags → List (Char × Nat) → Option Nat → Nat → Except Failure (Flags × Nat × Bool)
  | 0, _, _, _, i => .error ⟨.flagUnexpectedEof, ⟨i, i⟩, none⟩
  | fuel + 1, f, seen, neg, i =>
    match r.at? i with
    | none => .error ⟨.flagUnexpectedEof, ⟨i, i⟩, none⟩
    | some ':' | some ')' =>
      match neg with
      | some p => .error ⟨.flagDanglingNegation, ⟨p, p + 1⟩, none⟩
      | none => .ok (f, i, seen.isEmpty)
    | some '-' =>
      match seen.find? (·.1 == '-') with
      | some (_, p) => .error ⟨.flagRepeatedNegation, ⟨i, i + 1⟩, some ⟨p, p + 1⟩⟩
      | none => readFlags r start fuel f (('-', i) :: seen) (some i) (i + 1)
    | some c =>
      match seen.find? (·.1 == c) with
      | some (_, p) => .error ⟨.flagDuplicate, ⟨i, i + 1⟩, some ⟨p, p + 1⟩⟩
      | none =>
        match setFlag f c (!(seen.any (·.1 == '-'))) with
        | some f' => readFlags r start fuel f' ((c, i) :: seen) none (i + 1)
        | none => .error ⟨.flagUnrecognized, ⟨i, i + 1⟩, none⟩

/-- A character of a group name: a letter or `_` first (letters are the alphabetic characters),
then also `.`, `[`, `]` and numeric characters. -/
def isGroupNameChar (c : Char) (first : Bool) : Bool :=
  let n := c.toNat
  c == '_' || Unicode.alphabeticSet.contains n ||
    (!first && (c == '.' || c == '[' || c == ']' || Unicode.numericSet.contains n))

/-- The capturing groups read so far: their names, each with where it is written, and how many
there are. -/
structure Groups where
  names : List (String × Span) := []
  count : Nat := 0

/-- How a group was opened: a group whose body starts at `start`, read with `flags`, capturing
(with a number and perhaps a name) or not; or a flag group. -/
inductive Opening where
  | group (start : Nat) (flags : Flags) (capture : Option (Nat × Option String)) (groups : Groups)
  | setFlags (flags : Flags)

/-- Reads the opening of a group at `i` (the `(`). -/
def readOpening (r : Reader) (flags : Flags) (groups : Groups) (i : Nat) : Except Failure Opening := do
  let j := r.space flags (i + 1)
  let rest := r.text.toList.drop j
  match rest with
  | '?' :: '=' :: _ | '?' :: '!' :: _ => throw ⟨.unsupportedLookAround, ⟨i, j + 2⟩, none⟩
  | '?' :: '<' :: '=' :: _ | '?' :: '<' :: '!' :: _ => throw ⟨.unsupportedLookAround, ⟨i, j + 3⟩, none⟩
  | '?' :: 'P' :: '<' :: _ | '?' :: '<' :: _ =>
    let nameStart := if rest.take 2 == ['?', 'P'] then j + 3 else j + 2
    let name := (r.text.toList.drop nameStart).takeWhile (· != '>')
    let close := nameStart + name.length
    match name.zipIdx.find? (fun (c, k) => !isGroupNameChar c (k == 0)) with
    | some (_, k) => throw ⟨.groupNameInvalid, ⟨nameStart + k, nameStart + k + 1⟩, none⟩
    | none => pure ()
    if (r.at? close).isNone then throw ⟨.groupNameUnexpectedEof, ⟨nameStart, close⟩, none⟩
    if name.isEmpty then throw ⟨.groupNameEmpty, ⟨nameStart, nameStart⟩, none⟩
    let s := String.ofList name
    let here : Span := ⟨nameStart, close⟩
    match groups.names.lookup s with
    | some first => throw ⟨.groupNameDuplicate, here, some first⟩
    | none =>
      let n := groups.count + 1
      pure (.group (close + 1) flags (some (n, some s)) ⟨(s, here) :: groups.names, n⟩)
  | '?' :: more =>
    if more.isEmpty then throw ⟨.groupUnclosed, ⟨i, i + 1⟩, none⟩
    let (f, endPos, noFlags) ← readFlags r flags (r.text.size + 1) flags [] none (j + 1)
    if r.at? endPos == some ')' then
      if noFlags then throw ⟨.repetitionMissing, ⟨j, j⟩, none⟩
      pure (.setFlags f)
    else pure (.group (endPos + 1) f none groups)
  | _ =>
    let n := groups.count + 1
    pure (.group j flags (some (n, none)) { groups with count := n })

/-- A sequence of items (in order) as one node: no item is the empty node, one item is itself. -/
def concatAst (span : Span) : List Ast → Ast
  | [] => .empty span
  | [a] => a
  | items => .concat span items

/-- Wraps the last item of a reversed sequence in a repetition that ends at `stop`; `opPos` is
where the operator is written. -/
def repeatLast (items : List Ast) (opPos stop lo : Nat) (hi : Option Nat) (greedy : Bool) :
    Except Failure (List Ast) :=
  match items with
  | .flags _ :: _ | .empty _ :: _ | [] => .error ⟨.repetitionMissing, ⟨opPos, opPos⟩, none⟩
  | a :: rest => .ok (.repetition ⟨a.span.start, stop⟩ lo hi greedy a :: rest)

/-- The result of reading alternatives: the node, the flags in force after it, the groups so
far, and the position where reading stopped. -/
abbrev AltResult := Except Failure (Ast × Flags × Groups × Nat)

/-- The result of reading a sequence: its items reversed, the flags in force after it, the
groups so far, and the position where reading stopped. -/
abbrev SeqResult := Except Failure (List Ast × Flags × Groups × Nat)

mutual

/-- Reads alternatives up to a `)` that closes the group (when `inGroup`) or the end, starting
with a sequence at `i`. `altStart` is where the first alternative starts and `branches` holds
the alternatives read so far, reversed. -/
def readAlt (r : Reader) (inGroup : Option Span) : Nat → Flags → Groups → Nat → List Ast → Nat → AltResult
  | 0, f, gs, _, _, i => .ok (.empty ⟨i, i⟩, f, gs, i)
  | fuel + 1, f, gs, altStart, branches, i =>
    match readSeq r inGroup fuel f gs [] i with
    | .error e => .error e
    | .ok (items, f', gs', j) =>
      let branch := concatAst ⟨i, j⟩ items.reverse
      match r.at? j with
      | some '|' => readAlt r inGroup fuel f' gs' altStart (branch :: branches) (j + 1)
      | _ =>
        if branches.isEmpty then .ok (branch, f', gs', j)
        else .ok (.alternation ⟨altStart, j⟩ (branch :: branches).reverse, f', gs', j)

/-- Reads a sequence up to `|`, a closing `)` or the end; `acc` holds the items in reverse. -/
def readSeq (r : Reader) (inGroup : Option Span) : Nat → Flags → Groups → List Ast → Nat → SeqResult
  | 0, f, gs, acc, i => .ok (acc, f, gs, i)
  | fuel + 1, f, gs, acc, i0 =>
    let i := r.space f i0
    match r.at? i with
    | none =>
      match inGroup with
      | some g => .error ⟨.groupUnclosed, g, none⟩
      | none => .ok (acc, f, gs, i)
    | some '|' => .ok (acc, f, gs, i)
    | some ')' =>
      match inGroup with
      | some _ => .ok (acc, f, gs, i)
      | none => .error ⟨.groupUnopened, ⟨i, i + 1⟩, none⟩
    | some '(' =>
      match readOpening r f gs i with
      | .error e => .error e
      | .ok (.setFlags f') =>
        let stop := closeOf r i
        readSeq r inGroup fuel f' gs (.flags ⟨i, stop⟩ :: acc) stop
      | .ok (.group start gf capture gs') =>
        match readAlt r (some ⟨i, i + 1⟩) fuel gf gs' start [] start with
        | .error e => .error e
        | .ok (n, _, gs'', j) => readSeq r inGroup fuel f gs'' (.group ⟨i, j + 1⟩ capture n :: acc) (j + 1)
    | some '[' =>
      match readClass r f [] fuel i with
      | .error e => .error e
      | .ok (tree, j) => readSeq r inGroup fuel f gs (.cls tree f :: acc) j
    | some '*' => repeatOp r inGroup fuel f gs acc i 0 none
    | some '+' => repeatOp r inGroup fuel f gs acc i 1 none
    | some '?' => repeatOp r inGroup fuel f gs acc i 0 (some 1)
    | some '{' =>
      match acc with
      | .flags _ :: _ | .empty _ :: _ | [] => .error ⟨.repetitionMissing, ⟨i, i⟩, none⟩
      | _ =>
        match readCount r f i with
        | .error e => .error e
        | .ok ((lo, hi), lazy, j) =>
          match repeatLast acc i j lo hi (!lazy != f.swapGreed) with
          | .ok acc' => readSeq r inGroup fuel f gs acc' j
          | .error e => .error e
    | some '.' => readSeq r inGroup fuel f gs (.dot ⟨i, i + 1⟩ f :: acc) (i + 1)
    | some '^' => readSeq r inGroup fuel f gs (.assertion ⟨i, i + 1⟩ .startLine f :: acc) (i + 1)
    | some '$' => readSeq r inGroup fuel f gs (.assertion ⟨i, i + 1⟩ .endLine f :: acc) (i + 1)
    | some '\\' =>
      match readEscape r f i with
      | .error e => .error e
      | .ok (.char c byte, j) => readSeq r inGroup fuel f gs (.literal ⟨⟨i, j⟩, c, byte⟩ f :: acc) j
      | .ok (.shorthand k n, j) => readSeq r inGroup fuel f gs (.shorthand ⟨i, j⟩ k n f :: acc) j
      | .ok (.property n q, j) => readSeq r inGroup fuel f gs (.property ⟨i, j⟩ n q f :: acc) j
      | .ok (.look k, j) => readSeq r inGroup fuel f gs (.assertion ⟨i, j⟩ k f :: acc) j
    | some c => readSeq r inGroup fuel f gs (.literal ⟨⟨i, i + 1⟩, c, false⟩ f :: acc) (i + 1)

/-- A repetition operator at `i`, with an optional lazy mark right after it. -/
def repeatOp (r : Reader) (inGroup : Option Span) : Nat → Flags → Groups → List Ast → Nat →
    Nat → Option Nat → SeqResult
  | 0, f, gs, acc, i, _, _ => .ok (acc, f, gs, i)
  | fuel + 1, f, gs, acc, i, lo, hi =>
    let lazy := r.at? (i + 1) == some '?'
    let stop := if lazy then i + 2 else i + 1
    match repeatLast acc i stop lo hi (!lazy != f.swapGreed) with
    | .error e => .error e
    | .ok acc' => readSeq r inGroup fuel f gs acc' stop

/-- The position after a flag group `(?flags)` that starts at `i`. -/
def closeOf (r : Reader) (i : Nat) : Nat :=
  ((r.text.toList.drop i).takeWhile (· != ')')).length + i + 1

end

/-- Reads a whole expression. -/
def parse (text : String) : Except Failure Ast :=
  let r : Reader := ⟨text.toList.toArray⟩
  match readAlt r none (4 * r.text.size + 8) {} {} 0 [] 0 with
  | .error e => .error e
  | .ok (n, _, _, _) => .ok n

end BuildSpec.Pattern
