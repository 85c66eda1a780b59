import BuildSpec.Unicode.CharSet

/-!
# Regular expressions: lowered expressions

A syntax tree is lowered into a `Pattern.Hir`: flags are applied, classes become sets of
characters, and the expression is put in a simpler shape by the building functions below, which
the size of the compiled automaton (`Pattern.Automaton`) depends on:

* `Hir.mkConcat` flattens nested sequences, drops empty pieces and joins neighbouring literals;
* `Hir.mkAlt` flattens nested alternations, turns alternatives that are all single characters or
  all classes into one class, and lifts a common leading part out of alternatives that are all
  sequences;
* `Hir.mkClass` turns an empty class into the expression that never matches and a class of one
  character into a literal;
* `Hir.mkRep` bounds a repetition of something that only matches empty text to at most one
  round, and removes repetitions of exactly zero or one round.

`Hir.minLen` and `Hir.maxLen` are the least and greatest number of UTF-8 bytes of a match (none
when there is no match at all, or for the greatest when there is no bound), and
`Hir.startAnchored` and `Hir.endAnchored` say whether every match must start at the start of
the text, or end at its end.
-/

namespace BuildSpec.Pattern

open Unicode (CharSet utf8Length)

/-- A position test. The word tests read word characters in the Unicode sense or, when
`unicode` is off, in the ASCII sense. -/
inductive Look where
  | startText | endText | startLine | endLine
  /-- The start of a line that may also end with a carriage return. -/
  | startLineCrlf
  /-- The end of a line that may also end with a carriage return. -/
  | endLineCrlf
  | word (unicode : Bool)
  | notWord (unicode : Bool)
  | wordStart (unicode : Bool)
  | wordEnd (unicode : Bool)
  | wordStartHalf (unicode : Bool)
  | wordEndHalf (unicode : Bool)
  deriving DecidableEq, Repr

/-- A lowered expression. A class of bytes (`bytes`) comes from text read with Unicode off;
its members are all ASCII. -/
inductive Hir where
  | empty
  /-- A nonempty sequence of characters. -/
  | literal (cs : List Char)
  | cls (bytes : Bool) (set : CharSet)
  | look (k : Look)
  | rep (min : Nat) (max : Option Nat) (greedy : Bool) (sub : Hir)
  | capture (index : Nat) (name : Option String) (sub : Hir)
  /-- A sequence of at least two pieces. -/
  | concat (subs : List Hir)
  /-- A choice between at least two alternatives. -/
  | alt (subs : List Hir)
  deriving Repr

namespace Hir

mutual

/-- Are two expressions the same. -/
def beq : Hir → Hir → Bool
  | .empty, .empty => true
  | .literal a, .literal b => a == b
  | .cls a s, .cls b t => a == b && s == t
  | .look a, .look b => a == b
  | .rep a b c d, .rep a' b' c' d' => a == a' && b == b' && c == c' && beq d d'
  | .capture a b c, .capture a' b' c' => a == a' && b == b' && beq c c'
  | .concat a, .concat b => beqList a b
  | .alt a, .alt b => beqList a b
  | _, _ => false

/-- Are two lists of expressions the same. -/
def beqList : List Hir → List Hir → Bool
  | [], [] => true
  | a :: as, b :: bs => beq a b && beqList as bs
  | _, _ => false

end

instance : BEq Hir := ⟨beq⟩

/-- The number of bytes of characters in UTF-8. -/
def utf8Size (cs : List Char) : Nat := cs.foldl (fun n c => n + utf8Length c.toNat) 0

mutual

/-- The least number of bytes of a match; none when nothing matches. -/
def minLen : Hir → Option Nat
  | .empty => some 0
  | .literal cs => some (utf8Size cs)
  | .cls bytes s =>
    match s with
    | [] => none
    | (lo, _) :: _ => some (if bytes then 1 else utf8Length lo)
  | .look _ => some 0
  | .rep min _ _ sub => sub.minLen.map (· * min)
  | .capture _ _ sub => sub.minLen
  | .concat subs => minLenSum subs
  | .alt subs => minLenLeast subs

/-- The least number of bytes of a match of a sequence. -/
def minLenSum : List Hir → Option Nat
  | [] => some 0
  | h :: t => do
    let a ← h.minLen
    let b ← minLenSum t
    pure (a + b)

/-- The least of the least numbers of bytes of alternatives; none when one of them has no match. -/
def minLenLeast : List Hir → Option Nat
  | [] => none
  | [h] => h.minLen
  | h :: t => do
    let a ← h.minLen
    let b ← minLenLeast t
    pure (min a b)

end

mutual

/-- The greatest number of bytes of a match; none when it is unbounded or nothing matches. -/
def maxLen : Hir → Option Nat
  | .empty => some 0
  | .literal cs => some (utf8Size cs)
  | .cls bytes s =>
    match s.getLast? with
    | none => none
    | some (_, hi) => some (if bytes then 1 else utf8Length hi)
  | .look _ => some 0
  | .rep _ max _ sub => max.bind fun m => sub.maxLen.map (· * m)
  | .capture _ _ sub => sub.maxLen
  | .concat subs => maxLenSum subs
  | .alt subs => maxLenGreatest subs

/-- The greatest number of bytes of a match of a sequence. -/
def maxLenSum : List Hir → Option Nat
  | [] => some 0
  | h :: t => do
    let a ← h.maxLen
    let b ← maxLenSum t
    pure (a + b)

/-- The greatest of the greatest numbers of bytes of alternatives. -/
def maxLenGreatest : List Hir → Option Nat
  | [] => none
  | [h] => h.maxLen
  | h :: t => do
    let a ← h.maxLen
    let b ← maxLenGreatest t
    pure (max a b)

end

/-- Does an expression only match empty text (or nothing). -/
def onlyEmpty (h : Hir) : Bool := h.maxLen == some 0

mutual

/-- Must every match start at the start of the text. -/
def startAnchored : Hir → Bool
  | .look k => k == .startText
  | .rep min _ _ sub => min > 0 && sub.startAnchored
  | .capture _ _ sub => sub.startAnchored
  | .concat subs => startAnchoredSeq subs
  | .alt subs => startAnchoredAll subs
  | _ => false

/-- Is a sequence anchored at the start by one of its pieces up to the first that can match a
character. -/
def startAnchoredSeq : List Hir → Bool
  | [] => false
  | h :: t => h.startAnchored || (h.onlyEmpty && startAnchoredSeq t)

/-- Are all alternatives anchored at the start. -/
def startAnchoredAll : List Hir → Bool
  | [] => false
  | [h] => h.startAnchored
  | h :: t => h.startAnchored && startAnchoredAll t

end

mutual

/-- Must every match end at the end of the text. -/
def endAnchored : Hir → Bool
  | .look k => k == .endText
  | .rep min _ _ sub => min > 0 && sub.endAnchored
  | .capture _ _ sub => sub.endAnchored
  | .concat subs => (endAnchoredSeq subs).1
  | .alt subs => endAnchoredAll subs
  | _ => false

/-- Reads a sequence from its end up to the first piece that can match a character: whether one
of the pieces read anchors it at the end, and whether that reading stopped inside the list. -/
def endAnchoredSeq : List Hir → Bool × Bool
  | [] => (false, false)
  | h :: t =>
    let (anchored, stopped) := endAnchoredSeq t
    if stopped then (anchored, true) else (anchored || h.endAnchored, !h.onlyEmpty)

/-- Are all alternatives anchored at the end. -/
def endAnchoredAll : List Hir → Bool
  | [] => false
  | [h] => h.endAnchored
  | h :: t => h.endAnchored && endAnchoredAll t

end

mutual

/-- The number of nodes of an expression. -/
def size : Hir → Nat
  | .rep _ _ _ sub => sub.size + 1
  | .capture _ _ sub => sub.size + 1
  | .concat subs => sizeList subs + 1
  | .alt subs => sizeList subs + 1
  | _ => 1

/-- The number of nodes of a list of expressions. -/
def sizeList : List Hir → Nat
  | [] => 0
  | h :: t => h.size + sizeList t

end

/-- The expression that never matches: the empty class of bytes. -/
def fail : Hir := .cls true []

/-- A class as an expression: an empty class never matches, a class of one character is that
character. -/
def mkClass (bytes : Bool) (s : CharSet) : Hir :=
  match s with
  | [] => fail
  | [(lo, hi)] => if lo == hi then .literal [Char.ofNat lo] else .cls bytes s
  | _ => .cls bytes s

/-- A repetition as an expression. A repetition of something that only matches empty text is
bounded to at most one round; zero rounds is the empty expression and exactly one round is the
expression itself. -/
def mkRep (min : Nat) (max : Option Nat) (greedy : Bool) (sub : Hir) : Hir :=
  let (min, max) := if sub.onlyEmpty then (Nat.min min 1, some (Nat.min (max.getD 1) 1)) else (min, max)
  if min == 0 && max == some 0 then .empty
  else if min == 1 && max == some 1 then sub
  else .rep min max greedy sub

/-- Finished pieces (reversed) followed by a literal being gathered. -/
def flushLiteral (done : List Hir) (lit : List Char) : List Hir :=
  if lit.isEmpty then done else .literal lit :: done

/-- Adds one piece to a sequence being built: literals are gathered, empty pieces dropped. -/
def joinStep (acc : List Hir × List Char) (h : Hir) : List Hir × List Char :=
  match h with
  | .literal cs => (acc.1, acc.2 ++ cs)
  | .empty => acc
  | h => (h :: flushLiteral acc.1 acc.2, [])

/-- A sequence as an expression: nested sequences are flattened, empty pieces dropped and
neighbouring literals joined; no piece is the empty expression, one piece is itself. -/
def mkConcat (subs : List Hir) : Hir :=
  let flat := subs.flatMap fun h => match h with
    | .concat xs => xs
    | h => [h]
  let (done, lit) := flat.foldl joinStep ([], [])
  match (flushLiteral done lit).reverse with
  | [] => .empty
  | [h] => h
  | items => .concat items

/-- The characters of alternatives that are all literals of one character. -/
def singleChars : List Hir → Option (List Char)
  | [] => some []
  | .literal [c] :: t => (singleChars t).map (c :: ·)
  | _ => none

/-- The union of alternatives that are all classes. -/
def classUnion : List Hir → Option CharSet
  | [] => some []
  | .cls _ s :: t => (classUnion t).map (s ++ ·)
  | _ => none

/-- The pieces of alternatives that are all sequences. -/
def seqPieces : List Hir → Option (List (List Hir))
  | [] => some []
  | .concat xs :: t => (seqPieces t).map (xs :: ·)
  | _ => none

/-- The length of the common beginning of two lists. -/
def commonPrefixLength : List Hir → List Hir → Nat
  | a :: as, b :: bs => if a == b then commonPrefixLength as bs + 1 else 0
  | _, _ => 0

/-- An alternation as an expression, `fuel` bounding the liftings of common beginnings (the
number of nodes is enough, since each lifting leaves smaller alternatives). -/
def mkAltFuel : Nat → List Hir → Hir
  | 0, subs => .alt subs
  | fuel + 1, subs =>
    let flat := subs.flatMap fun h => match h with
      | .alt xs => xs
      | h => [h]
    match flat with
    | [] => fail
    | [h] => h
    | _ =>
      match singleChars flat with
      | some cs => mkClass false (Unicode.normalize (cs.map fun c => (c.toNat, c.toNat)))
      | none =>
        match classUnion flat with
        | some s => mkClass false (Unicode.normalize s)
        | none =>
          match seqPieces flat with
          | some (first :: others) =>
            let n := others.foldl (fun n xs => commonPrefixLength (first.take n) xs) first.length
            if n == 0 then .alt flat
            else
              let rests := (first :: others).map fun xs => mkConcat (xs.drop n)
              mkConcat (first.take n ++ [mkAltFuel fuel rests])
          | _ => .alt flat

/-- An alternation as an expression: nested alternations are flattened; no alternative never
matches, one alternative is itself; alternatives that are all single characters, or all
classes, become one class; a beginning common to alternatives that are all sequences is lifted
out. -/
def mkAlt (subs : List Hir) : Hir := mkAltFuel (sizeList subs + 1) subs

end Hir

end BuildSpec.Pattern
