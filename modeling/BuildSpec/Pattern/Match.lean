import BuildSpec.Pattern.Hir
import BuildSpec.Unicode.Property

/-!
# Regular expressions: matching

A lowered expression is compiled into a `Pattern.Machine`: states that read one character of
a class, test the position, fork, or accept. A text matches when some run of the machine,
started at any position, reaches the accepting state (`Machine.search`). Runs are followed all
at once, position after position: the states reached at a position are closed under the steps
that read nothing (`Machine.closure`), then advanced over the next character. Each state is
visited at most once a position, so a search takes time proportional to the text's length
times the machine's size.

Repetitions are unrolled: the required rounds one after the other, then the optional rounds,
each of which may be skipped to the end, or for an unbounded repetition a loop. Greed and
groups do not change whether a text matches, so the machine leaves them out.
-/

namespace BuildSpec.Pattern

open Unicode (Ranges)

/-- A state of a matching machine. -/
inductive Step where
  /-- Read a character of the class and go on. -/
  | chars (set : Ranges) (next : Nat)
  /-- Go on when the position test holds. -/
  | look (k : Look) (next : Nat)
  /-- Go on to both states. -/
  | fork (first second : Nat)
  | accept
  deriving Inhabited

/-- A matching machine: its states and where runs start. -/
structure Machine where
  steps : Array Step
  start : Nat

/-- Building a machine: the states made so far. -/
abbrev Assemble := StateM (Array Step)

/-- Adds a state; returns its number. -/
def emit (s : Step) : Assemble Nat := do
  let steps ← get
  set (steps.push s)
  pure steps.size

/-- The states of `n` rounds of a piece, one after the other, ending at `next`; `piece next`
builds one round ending at `next` and returns its start. -/
def roundsBefore (piece : Nat → Assemble Nat) : Nat → Nat → Assemble Nat
  | 0, next => pure next
  | n + 1, next => do
    let s ← roundsBefore piece n next
    piece s

/-- The states of `n` optional rounds of a piece ending at `next`, each of which may be skipped
to `next`. -/
def optionalBefore (piece : Nat → Assemble Nat) (next : Nat) : Nat → Assemble Nat
  | 0 => pure next
  | n + 1 => do
    let s ← optionalBefore piece next n
    let body ← piece s
    emit (.fork body next)

/-- The states of a repetition of a piece ending at `next`. -/
def repeatBefore (piece : Nat → Assemble Nat) (min : Nat) (max : Option Nat) (next : Nat) : Assemble Nat :=
  match max with
  | some max => do
    let rest ← optionalBefore piece next (max - min)
    roundsBefore piece min rest
  | none => do
    let loop ← emit .accept
    let body ← piece loop
    modify fun steps => steps.set! loop (.fork body next)
    roundsBefore piece min loop

/-- The forks choosing between alternatives that start at the given states. -/
def forkAll : List Nat → Nat → Assemble Nat
  | [], next => pure next
  | [s], _ => pure s
  | s :: rest, next => do
    let r ← forkAll rest next
    emit (.fork s r)

mutual

/-- The states of an expression ending at `next`; returns the start. -/
def Hir.assemble (next : Nat) : Hir → Assemble Nat
  | .empty => pure next
  | .literal cs => cs.foldrM (fun c s => emit (.chars #[(c.toNat, c.toNat)] s)) next
  | .cls _ set => emit (.chars set.toArray next)
  | .look k => emit (.look k next)
  | .rep min max _ sub => repeatBefore (fun k => sub.assemble k) min max next
  | .capture _ _ sub => sub.assemble next
  | .concat subs => Hir.assembleSeq next subs
  | .alt subs => do
    let starts ← Hir.assembleEach next subs
    forkAll starts next

/-- The states of a sequence ending at `next`. -/
def Hir.assembleSeq (next : Nat) : List Hir → Assemble Nat
  | [] => pure next
  | h :: t => do
    let s ← Hir.assembleSeq next t
    h.assemble s

/-- The states of each alternative ending at `next`; returns their starts. -/
def Hir.assembleEach (next : Nat) : List Hir → Assemble (List Nat)
  | [] => pure []
  | h :: t => do
    let s ← h.assemble next
    let rest ← Hir.assembleEach next t
    pure (s :: rest)

end

/-- The machine of an expression. -/
def Hir.machine (h : Hir) : Machine :=
  let (start, steps) := ((do
    let final ← emit .accept
    h.assemble final) : Assemble Nat).run #[]
  ⟨steps, start⟩

/-- Is a character a word character: in the Unicode sense, or in the ASCII sense
`[0-9A-Za-z_]`. -/
def isWordChar (unicode : Bool) (c : Char) : Bool :=
  if c.toNat < 0x80 then c.isAlphanum || c == '_'
  else unicode && Unicode.wordSet.contains c.toNat

/-- Does a position test hold at position `i` of `w`. -/
def Look.holds (k : Look) (w : Array Char) (i : Nat) : Bool :=
  let before := if i == 0 then none else w[i - 1]?
  let after := w[i]?
  let wordBefore (u : Bool) := (before.map (isWordChar u)).getD false
  let wordAfter (u : Bool) := (after.map (isWordChar u)).getD false
  match k with
  | .startText => i == 0
  | .endText => i == w.size
  | .startLine => i == 0 || before == some '\n'
  | .endLine => i == w.size || after == some '\n'
  | .startLineCrlf => i == 0 || before == some '\n' || (before == some '\r' && after != some '\n')
  | .endLineCrlf => i == w.size || after == some '\r' || (after == some '\n' && before != some '\r')
  | .word u => wordBefore u != wordAfter u
  | .notWord u => wordBefore u == wordAfter u
  | .wordStart u => !wordBefore u && wordAfter u
  | .wordEnd u => wordBefore u && !wordAfter u
  | .wordStartHalf u => !wordBefore u
  | .wordEndHalf u => !wordAfter u

namespace Machine

/-- Marks the states reachable from the waiting ones without reading, at position `i` of `w`.
Each state is marked once and then adds at most two waiting states, so `fuel` beyond three
times the number of states (and the states waiting at first) is never used up. -/
def closure (m : Machine) (w : Array Char) (i : Nat) : Nat → List Nat → Array Bool → Array Bool
  | 0, _, seen => seen
  | _ + 1, [], seen => seen
  | fuel + 1, s :: rest, seen =>
    if seen[s]?.getD true then closure m w i fuel rest seen
    else
      let seen := seen.set! s true
      match m.steps[s]? with
      | some (.look k next) => closure m w i fuel (if k.holds w i then next :: rest else rest) seen
      | some (.fork a b) => closure m w i fuel (a :: b :: rest) seen
      | _ => closure m w i fuel rest seen

/-- Does a marked state accept. -/
def accepts (m : Machine) (seen : Array Bool) : Bool :=
  (List.range m.steps.size).any fun s =>
    seen[s]?.getD false && match m.steps[s]? with
      | some Step.accept => true
      | _ => false

/-- The states reached from the marked ones by reading `c`. -/
def advance (m : Machine) (seen : Array Bool) (c : Char) : List Nat :=
  (List.range m.steps.size).filterMap fun s =>
    if seen[s]?.getD false then
      match m.steps[s]? with
      | some (Step.chars set next) => if set.contains c.toNat then some next else none
      | _ => none
    else none

/-- Searches the text from position `i`, with the states reached there by runs started before. -/
def searchFrom (m : Machine) (w : Array Char) : Nat → Nat → List Nat → Bool
  | 0, _, _ => false
  | fuel + 1, i, reached =>
    let waiting := m.start :: reached
    let seen := m.closure w i (3 * m.steps.size + waiting.length + 1) waiting
      (Array.replicate m.steps.size false)
    if m.accepts seen then true
    else match w[i]? with
      | some c => searchFrom m w fuel (i + 1) (m.advance seen c)
      | none => false

/-- Does the machine match some stretch of the text. -/
def search (m : Machine) (text : String) : Bool :=
  let w := text.toList.toArray
  m.searchFrom w (w.size + 1) 0 []

end Machine

end BuildSpec.Pattern
