import BuildSpec.Pattern.Syntax
import BuildSpec.Pattern.Hir

/-!
# Regular expressions: lowering

`Ast.toHir` turns a syntax tree into a lowered expression, applying the flags at each leaf
and reading every class as a set of characters. Its faults are found in reading order, each
node after what it holds:

* a Unicode class `\p{...}` needs Unicode on, and names a known property and value;
* with Unicode off, an expression must not be able to match text that is not UTF-8: `.`, `\B`,
  the complements `\D`, `\W`, `\S`, a complemented class, and a byte `\xNN` above `0x7F` are
  refused, as are characters outside ASCII in a class or in a literal whose case is ignored.

Case is folded before a class is complemented, at each bracket and on both sides of an
operation: with case ignored, `[^k]` refuses `K` and the Kelvin sign alike. With Unicode on,
the classes `\d`, `\s` and `\w` hold all cases already.
-/

namespace BuildSpec.Pattern

open Unicode (CharSet maxCode)

/-- The members of a named ASCII class. -/
def AsciiClass.members : AsciiClass → CharSet
  | .alnum => [(0x30, 0x39), (0x41, 0x5A), (0x61, 0x7A)]
  | .alpha => [(0x41, 0x5A), (0x61, 0x7A)]
  | .ascii => [(0x00, 0x7F)]
  | .blank => [(0x09, 0x09), (0x20, 0x20)]
  | .cntrl => [(0x00, 0x1F), (0x7F, 0x7F)]
  | .digit => [(0x30, 0x39)]
  | .graph => [(0x21, 0x7E)]
  | .lower => [(0x61, 0x7A)]
  | .print => [(0x20, 0x7E)]
  | .punct => [(0x21, 0x2F), (0x3A, 0x40), (0x5B, 0x60), (0x7B, 0x7E)]
  | .space => [(0x09, 0x0D), (0x20, 0x20)]
  | .upper => [(0x41, 0x5A)]
  | .word => [(0x30, 0x39), (0x41, 0x5A), (0x5F, 0x5F), (0x61, 0x7A)]
  | .xdigit => [(0x30, 0x39), (0x41, 0x46), (0x61, 0x66)]

/-- The fault at a place. -/
def faultAt (f : Fault) (s : Span) : Failure := ⟨f, s, none⟩

/-- A class of characters with case folded (when asked) and then complemented (when asked). -/
def foldNegate (fold negated : Bool) (s : CharSet) : CharSet :=
  let s := if fold then s.foldClose else s
  if negated then s.complement else s

/-- A class of bytes with ASCII case folded (when asked) and then complemented within the bytes
(when asked); it must stay within ASCII, or it could match text that is not UTF-8. -/
def foldNegateBytes (fold negated : Bool) (span : Span) (s : CharSet) : Except Failure CharSet :=
  let s := if fold then s.foldAscii else s
  let s := if negated then s.complementUpTo 0xFF else s
  if s.isAscii then .ok s else .error (faultAt .invalidUtf8 span)

/-- The members of `\d`, `\s` or `\w`, complemented when asked: the Unicode classes, or with
Unicode off the ASCII ones, which must not be complemented. -/
def shorthandSet (unicode : Bool) (span : Span) (k : Shorthand) (negated : Bool) : Except Failure CharSet :=
  if unicode then
    let s := match k with
      | .digit => Unicode.digitSet
      | .space => Unicode.spaceSet
      | .word => Unicode.wordSet
    .ok (if negated then s.complement else s)
  else
    let s := match k with
      | .digit => AsciiClass.digit.members
      | .space => AsciiClass.space.members
      | .word => AsciiClass.word.members
    foldNegateBytes false negated span s

/-- The members of a Unicode class `\p{...}`, folded and complemented as asked. -/
def propertySet (flags : Flags) (span : Span) (negated : Bool) (q : Unicode.Query) : Except Failure CharSet :=
  if !flags.unicode then .error (faultAt .unicodeNotAllowed span)
  else match q.resolve with
    | .error .propertyNotFound => .error (faultAt .unicodePropertyNotFound span)
    | .error .valueNotFound => .error (faultAt .unicodePropertyValueNotFound span)
    | .ok s => .ok (foldNegate flags.fold negated s)

/-- A character of a class read with Unicode off, as a byte: a byte `\xNN` above `0x7F` could
match text that is not UTF-8, and other characters outside ASCII need Unicode. -/
def classByte (l : Literal) : Except Failure Nat :=
  let n := l.char.toNat
  if n ≤ 0x7F then .ok n
  else if l.byte then .error (faultAt .invalidUtf8 l.span)
  else .error (faultAt .unicodeNotAllowed l.span)

/-- Combines the two sides of a class operation. -/
def SetOp.apply : SetOp → CharSet → CharSet → CharSet
  | .intersection, a, b => a.inter b
  | .difference, a, b => a.diff b
  | .symmetricDifference, a, b => a.symmDiff b

mutual

/-- The members of a class body, read with the flags of its class. -/
def ClassTree.members (flags : Flags) : ClassTree → Except Failure CharSet
  | .empty _ => .ok []
  | .literal l =>
    if flags.unicode then .ok [(l.char.toNat, l.char.toNat)]
    else (classByte l).map fun b => [(b, b)]
  | .range _ lo hi =>
    if flags.unicode then .ok [(lo.char.toNat, hi.char.toNat)]
    else do
      let a ← classByte lo
      let b ← classByte hi
      pure [(a, b)]
  | .ascii span k negated =>
    if flags.unicode then .ok (foldNegate flags.fold negated k.members)
    else foldNegateBytes flags.fold negated span k.members
  | .shorthand span k negated => shorthandSet flags.unicode span k negated
  | .property span negated q => propertySet flags span negated q
  | .bracketed span negated body => do
    let s ← body.members flags
    if flags.unicode then pure (foldNegate flags.fold negated s)
    else foldNegateBytes flags.fold negated span s
  | .union _ items => ClassTree.membersOfAll flags items
  | .setOp _ op lhs rhs => do
    let a ← lhs.members flags
    let b ← rhs.members flags
    let fold : CharSet → CharSet := fun s =>
      if !flags.fold then s else if flags.unicode then s.foldClose else s.foldAscii
    pure (op.apply (fold a) (fold b))

/-- The members of a union of class items. -/
def ClassTree.membersOfAll (flags : Flags) : List ClassTree → Except Failure CharSet
  | [] => .ok []
  | t :: ts => do
    let a ← t.members flags
    let b ← ClassTree.membersOfAll flags ts
    pure (a.union b)

end

/-- A literal character under the flags: itself, or with case ignored the class of its cases. -/
def literalHir (l : Literal) (flags : Flags) : Except Failure Hir := do
  let c := l.char
  let n := c.toNat
  if !flags.unicode && l.byte && n > 0x7F then throw (faultAt .invalidUtf8 l.span)
  if !flags.fold then return .literal [c]
  if flags.unicode then
    let s := Unicode.CharSet.foldClose [(n, n)]
    return (if s == [(n, n)] then .literal [c] else Hir.mkClass false s)
  if n > 0x7F then throw (faultAt .unicodeNotAllowed l.span)
  return Hir.mkClass true (Unicode.CharSet.foldAscii [(n, n)])

/-- `.` under the flags: any character, any but a line feed, or any but a line feed and a
carriage return. With Unicode off it would match any byte, which is refused. -/
def dotHir (span : Span) (flags : Flags) : Except Failure Hir :=
  if !flags.unicode then .error (faultAt .invalidUtf8 span)
  else .ok (Hir.mkClass false (
    if flags.dotNewline then [(0, maxCode)]
    else if flags.crlf then [(0, 0x09), (0x0B, 0x0C), (0x0E, maxCode)]
    else [(0, 0x09), (0x0B, maxCode)]))

/-- A position test under the flags. With Unicode off, `\B` could hold inside a character and is
refused. -/
def assertionHir (span : Span) (k : Assertion) (flags : Flags) : Except Failure Hir :=
  let u := flags.unicode
  match k with
  | .startLine => .ok (.look (if !flags.multiLine then .startText else if flags.crlf then .startLineCrlf else .startLine))
  | .endLine => .ok (.look (if !flags.multiLine then .endText else if flags.crlf then .endLineCrlf else .endLine))
  | .startText => .ok (.look .startText)
  | .endText => .ok (.look .endText)
  | .wordBoundary => .ok (.look (.word u))
  | .notWordBoundary => if u then .ok (.look (.notWord true)) else .error (faultAt .invalidUtf8 span)
  | .wordStart => .ok (.look (.wordStart u))
  | .wordEnd => .ok (.look (.wordEnd u))
  | .wordStartHalf => .ok (.look (.wordStartHalf u))
  | .wordEndHalf => .ok (.look (.wordEndHalf u))

mutual

/-- The lowered expression of a syntax tree, or the first fault. -/
def Ast.toHir : Ast → Except Failure Hir
  | .empty _ => .ok .empty
  | .flags _ => .ok .empty
  | .literal l f => literalHir l f
  | .dot s f => dotHir s f
  | .assertion s k f => assertionHir s k f
  | .shorthand s k negated f => (shorthandSet f.unicode s k negated).map (Hir.mkClass (!f.unicode))
  | .property s negated q f => (propertySet f s negated q).map (Hir.mkClass false)
  | .cls tree f => (tree.members f).map (Hir.mkClass (!f.unicode))
  | .repetition _ min max greedy sub => sub.toHir.map (Hir.mkRep min max greedy)
  | .group _ capture sub =>
    sub.toHir.map fun h => match capture with
      | some (i, name) => .capture i name h
      | none => h
  | .alternation _ alts => (Ast.toHirList alts).map Hir.mkAlt
  | .concat _ items => (Ast.toHirList items).map Hir.mkConcat

/-- The lowered expressions of a list of trees, or the first fault. -/
def Ast.toHirList : List Ast → Except Failure (List Hir)
  | [] => .ok []
  | a :: as => do
    let h ← a.toHir
    let hs ← Ast.toHirList as
    pure (h :: hs)

end

end BuildSpec.Pattern
