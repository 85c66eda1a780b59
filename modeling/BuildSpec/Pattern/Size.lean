import Std.Data.HashMap
import BuildSpec.Pattern.Hir

/-!
# Regular expressions: the size of the compiled automaton

An expression is compiled twice into an automaton over UTF-8 bytes, once reading forward and
once backward, and each must fit in `Size.sizeLimit` bytes of memory: otherwise the expression
is refused as too large. This module counts that memory without building the automata.

## The memory of an automaton

Each state takes 32 bytes. A state with a list of byte transitions takes 8 more per
transition, and a state choosing between alternatives 4 more per alternative. Memory only
grows while an automaton is built, so it fits exactly when the count never passes the limit;
`Size.Build` stops at the first state or alternative that passes it, which keeps the count
short for expressions far over the limit.

## The states of each piece

* Text without a start anchor (or without an end anchor, reading backward) is searched
  anywhere, through a loop over any byte before the expression: three states and one
  alternative, and one more alternative leading into the expression.
* The forward automaton wraps the expression in the states of group 0, and has states for
  the start and end of every group; the backward one has none.
* A literal has one state per byte, a position test one state, the empty expression one state.
* A class within ASCII, or of bytes, has an empty state and a state with one transition per
  interval.
* A class beyond ASCII is split into UTF-8 byte sequences (`utf8Sequences`). Forward, they are
  joined into a shared automaton whose states are looked up in a cache of 10000 slots, keyed by
  a hash of their transitions (`Forward`). Backward, each sequence is a chain of byte states
  ending in a shared end, where chains share their ends through a cache of 1000 slots
  (`backwardClass`). Which states the caches share depends on the numbers of the states, so
  the count follows the order in which states are made.
* An alternation of literals only is compiled as a trie (`Trie`); other alternations have a
  state choosing between the alternatives and an end state.
* A repetition is unrolled into copies of its body joined by choice states.
-/

namespace BuildSpec.Pattern

namespace Size

open Unicode (CharSet)

/-- The most memory a compiled automaton may take, in bytes. -/
def sizeLimit : Nat := 10485760

/-- What is counted of an automaton being built: its states, and the memory of its lists of
transitions and of alternatives. -/
structure Tally where
  states : Nat
  lists : Nat

/-- The memory of an automaton: 32 bytes a state and its lists. -/
def Tally.memory (t : Tally) : Nat := 32 * t.states + t.lists

/-- Building an automaton, stopping when it passes the limit. -/
abbrev Build := StateT Tally (Except Unit)

/-- Adds states and list memory; returns the number of the first state added. -/
def grow (states lists : Nat) : Build Nat := do
  let t ← get
  let t2 : Tally := ⟨t.states + states, t.lists + lists⟩
  if t2.memory > sizeLimit then throw ()
  set t2
  pure t.states

/-- Adds a state without lists. -/
def addState : Build Nat := grow 1 0

/-- Adds a state with `n` byte transitions. -/
def addSparse (n : Nat) : Build Nat := grow 1 (8 * n)

/-- Links a state to the next; when it is a choice state, this adds an alternative. -/
def link (fromChoice : Bool) : Build Unit :=
  if fromChoice then discard (grow 0 4) else pure ()

/-! ## UTF-8 sequences -/

/-- The UTF-8 bytes of a code point. -/
def utf8Bytes (n : Nat) : List Nat :=
  if n ≤ 0x7F then [n]
  else if n ≤ 0x7FF then [0xC0 + n / 64, 0x80 + n % 64]
  else if n ≤ 0xFFFF then [0xE0 + n / 4096, 0x80 + n / 64 % 64, 0x80 + n % 64]
  else [0xF0 + n / 262144, 0x80 + n / 4096 % 64, 0x80 + n / 64 % 64, 0x80 + n % 64]

/-- The code points from `lo` to `hi` as sequences of byte intervals, in increasing order: each
sequence stands for all byte strings with one byte from each interval, and these strings are
exactly the UTF-8 encodings of the code points, surrogates left out. The range is cut at the
surrogates, at the ends of each encoding length, and then at blocks of 64, 4096 and 262144 code
points until the encodings of its ends differ only in a way every byte interval can hold. -/
def utf8Sequences (lo hi : Nat) : List (List (Nat × Nat)) :=
  if hi < lo then []
  else if lo < 0xE000 ∧ 0xD7FF < hi then utf8Sequences lo 0xD7FF ++ utf8Sequences 0xE000 hi
  else if lo ≤ 0x7F ∧ 0x7F < hi then utf8Sequences lo 0x7F ++ utf8Sequences 0x80 hi
  else if lo ≤ 0x7FF ∧ 0x7FF < hi then utf8Sequences lo 0x7FF ++ utf8Sequences 0x800 hi
  else if lo ≤ 0xFFFF ∧ 0xFFFF < hi then utf8Sequences lo 0xFFFF ++ utf8Sequences 0x10000 hi
  else if hi ≤ 0x7F then [[(lo, hi)]]
  else if lo / 64 ≠ hi / 64 ∧ lo % 64 ≠ 0 then
    utf8Sequences lo (lo / 64 * 64 + 63) ++ utf8Sequences (lo / 64 * 64 + 64) hi
  else if lo / 64 ≠ hi / 64 ∧ hi % 64 ≠ 63 then
    utf8Sequences lo (hi / 64 * 64 - 1) ++ utf8Sequences (hi / 64 * 64) hi
  else if lo / 4096 ≠ hi / 4096 ∧ lo % 4096 ≠ 0 then
    utf8Sequences lo (lo / 4096 * 4096 + 4095) ++ utf8Sequences (lo / 4096 * 4096 + 4096) hi
  else if lo / 4096 ≠ hi / 4096 ∧ hi % 4096 ≠ 4095 then
    utf8Sequences lo (hi / 4096 * 4096 - 1) ++ utf8Sequences (hi / 4096 * 4096) hi
  else if lo / 262144 ≠ hi / 262144 ∧ lo % 262144 ≠ 0 then
    utf8Sequences lo (lo / 262144 * 262144 + 262143) ++ utf8Sequences (lo / 262144 * 262144 + 262144) hi
  else if lo / 262144 ≠ hi / 262144 ∧ hi % 262144 ≠ 262143 then
    utf8Sequences lo (hi / 262144 * 262144 - 1) ++ utf8Sequences (hi / 262144 * 262144) hi
  else [(utf8Bytes lo).zip (utf8Bytes hi)]
termination_by hi + 1 - lo
decreasing_by all_goals omega

/-- The UTF-8 sequences of a class, interval after interval. -/
def classSequences (s : CharSet) : Array (List (Nat × Nat)) :=
  (s.flatMap fun (lo, hi) => utf8Sequences lo hi).toArray

/-! ## Hashing for the caches -/

/-- The start of a 64-bit FNV-1a hash. -/
def fnvStart : UInt64 := 14695981039346656037

/-- One step of a 64-bit FNV-1a hash, over a whole number. -/
def fnvStep (h : UInt64) (n : Nat) : UInt64 := (h ^^^ n.toUInt64) * 1099511628211

/-- A transition of a state: a byte interval and the state it leads to. -/
abbrev Edge := Nat × Nat × Nat

/-- The slot of a state's transitions in the forward cache. -/
def edgesSlot (es : Array Edge) : Nat :=
  (es.foldl (fun h (s, e, n) => fnvStep (fnvStep (fnvStep h s) e) n) fnvStart).toNat % 10000

/-- The slot of a byte state leading to a state in the backward cache. -/
def suffixSlot (key : Edge) : Nat :=
  (fnvStep (fnvStep (fnvStep fnvStart key.1) key.2.1) key.2.2).toNat % 1000

/-! ## Classes beyond ASCII, forward -/

/-- A state of the forward class automaton not yet compiled: its finished transitions, and the
interval of a last transition whose target is not known yet. -/
structure Pending where
  edges : Array Edge
  last : Option (Nat × Nat)

instance : Inhabited Pending := ⟨⟨#[], none⟩⟩

/-- The transitions of a pending state once its last transition leads to `next`. -/
def Pending.close (p : Pending) (next : Nat) : Array Edge :=
  match p.last with
  | some (s, e) => p.edges.push (s, e, next)
  | none => p.edges

/-- The forward class automaton being built: the state all sequences end in, the pending states
along the last sequence added (the first is the start), and the cache of compiled states. -/
structure Forward where
  target : Nat
  pending : Array Pending
  seen : Std.HashMap Nat (Array Edge × Nat)

/-- The state with these transitions: the cached one when its slot holds the same
transitions, else a new one, which takes the slot. -/
def Forward.compile (f : Forward) (es : Array Edge) : Build (Forward × Nat) := do
  let slot := edgesSlot es
  if let some (key, id) := f.seen[slot]? then
    if key == es then return (f, id)
  let id ← addSparse es.size
  pure ({ f with seen := f.seen.insert slot (es, id) }, id)

/-- Compiles the pending states above the first `keep + 1`, the deepest first, each leading to
the one compiled before it. -/
def Forward.unwind (keep : Nat) : Nat → Forward → Nat → Build (Forward × Nat)
  | 0, f, next => pure (f, next)
  | fuel + 1, f, next =>
    if keep + 1 < f.pending.size then do
      let top := f.pending.back?.getD default
      let (f, id) ← { f with pending := f.pending.pop }.compile (top.close next)
      Forward.unwind keep fuel f id
    else pure (f, next)

/-- Compiles the pending states above the first `keep + 1` and closes the last transition of
the one below them. -/
def Forward.compileFrom (f : Forward) (keep : Nat) : Build Forward := do
  let (f, next) ← Forward.unwind keep f.pending.size f f.target
  let top := f.pending.back?.getD default
  pure { f with pending := f.pending.pop.push ⟨top.close next, none⟩ }

/-- Adds a sequence: the part it shares with the pending states stays pending, the rest of
them is compiled, and the new part becomes pending. -/
def Forward.add (f : Forward) (seq : List (Nat × Nat)) : Build Forward := do
  let shared := ((seq.zip f.pending.toList).takeWhile fun (r, p) => p.last == some r).length
  let f ← f.compileFrom shared
  match seq.drop shared with
  | [] => pure f
  | r :: more =>
    let top := f.pending.back?.getD default
    let pending := f.pending.pop.push { top with last := some r }
    pure { f with pending := more.foldl (fun ps r => ps.push ⟨#[], some r⟩) pending }

/-- Compiles a class beyond ASCII, forward. -/
def forwardClass (seqs : Array (List (Nat × Nat))) : Build Unit := do
  let target ← addState
  let f ← seqs.foldlM Forward.add ⟨target, #[default], {}⟩
  let f ← f.compileFrom 0
  let root := f.pending[0]?.getD default
  discard (f.compile root.edges)

/-! ## Classes beyond ASCII, backward -/

/-- Compiles a class beyond ASCII, backward: a choice state, an end state, and for each
sequence a chain of byte states from its last byte to its first, reusing cached chain ends. -/
def backwardClass (seqs : Array (List (Nat × Nat))) : Build Unit := do
  discard addState
  let finish ← addState
  let chain (cache : Std.HashMap Nat (Edge × Nat)) (seq : List (Nat × Nat)) :
      Build (Std.HashMap Nat (Edge × Nat)) := do
    let (cache, _) ← seq.foldlM (fun (cache, next) (s, e) => do
      let key : Edge := (next, s, e)
      let slot := suffixSlot key
      if let some (k, id) := cache[slot]? then
        if k == key then return (cache, id)
      let id ← addState
      pure (cache.insert slot (key, id), id)) (cache, finish)
    link true
    pure cache
  discard (seqs.foldlM chain {})

/-! ## Alternations of literals -/

/-- A node of a trie of literals: transitions by byte to other nodes, and the chunks its
transitions are cut into by literals ending at the node. Transitions are only added to the
last, open chunk; the chunks before it are closed, which keeps the order of the literals. -/
structure TrieNode where
  edges : Array (Nat × Nat)
  chunks : Array (Nat × Nat)

instance : Inhabited TrieNode := ⟨⟨#[], #[]⟩⟩

/-- Where the open chunk starts. -/
def TrieNode.openStart (n : TrieNode) : Nat := (n.chunks.back?.map (·.2)).getD 0

/-- Marks a literal ending at the node by closing its open chunk, unless the node has no
transitions and is already marked. -/
def TrieNode.markEnd (n : TrieNode) : TrieNode :=
  if n.edges.isEmpty && !n.chunks.isEmpty then n
  else { n with chunks := n.chunks.push (n.openStart, n.edges.size) }

/-- The sizes of the chunks of a node, the open one last. -/
def TrieNode.chunkSizes (n : TrieNode) : List Nat :=
  n.chunks.toList.map (fun (s, e) => e - s) ++ [n.edges.size - n.openStart]

/-- Follows a byte from a node within its open chunk, adding a node when there is none. -/
def trieStep (t : Array TrieNode) (cur b : Nat) : Array TrieNode × Nat :=
  let node := t[cur]?.getD default
  let active := (node.edges.extract node.openStart node.edges.size).toList
  match active.find? (·.1 == b) with
  | some (_, child) => (t, child)
  | none =>
    let child := t.size
    let pos := node.openStart + (active.filter (·.1 < b)).length
    let edges := (node.edges.toList.take pos ++ [(b, child)] ++ node.edges.toList.drop pos).toArray
    ((t.set! cur { node with edges }).push default, child)

/-- Adds a literal to a trie. -/
def trieInsert (t : Array TrieNode) (bytes : List Nat) : Array TrieNode :=
  let (t, last) := bytes.foldl (fun (t, cur) b => trieStep t cur b) (t, 0)
  t.modify last TrieNode.markEnd

/-- The states and list memory of the automaton of a trie: an end state, and for each node
with transitions a state for each nonempty chunk (a single byte state or a list of
transitions) and a choice state between the chunks and, after each chunk closed by a literal,
the end. -/
def trieCost (t : Array TrieNode) : Nat × Nat :=
  t.foldl (fun (states, lists) n =>
    if n.edges.isEmpty then (states, lists)
    else
      let sizes := n.chunkSizes
      let filled := sizes.filter (· > 0)
      let listed := (filled.filter (· ≥ 2)).foldl (· + ·) 0
      (states + filled.length + 1, lists + 8 * listed + 4 * (filled.length + sizes.length - 1))) (1, 0)

/-- The states and list memory of the automaton of an alternation of literals. -/
def literalsCost (lits : List (List Nat)) : Nat × Nat :=
  trieCost (lits.foldl trieInsert #[default])

/-! ## Expressions -/

/-- An expression prepared for counting: classes are split into their UTF-8 sequences once, and
alternations of literals are counted once for each direction. -/
inductive Plan where
  | empty
  | literal (bytes : Nat)
  | sparse (intervals : Nat)
  | utf8 (seqs : Array (List (Nat × Nat)))
  | look
  | capture (sub : Plan)
  | concat (subs : List Plan)
  | alt (subs : List Plan)
  | trie (forward backward : Nat × Nat)
  | rep (min : Nat) (max : Option Nat) (nonEmpty : Bool) (sub : Plan)

/-- The bytes of the literals of alternatives that are all literals. -/
def literalAlternatives : List Hir → Option (List (List Nat))
  | [] => some []
  | .literal cs :: t => (literalAlternatives t).map ((cs.flatMap fun c => utf8Bytes c.toNat) :: ·)
  | _ => none

mutual

/-- The plan of an expression. -/
def plan : Hir → Plan
  | .empty => .empty
  | .literal cs => .literal (Hir.utf8Size cs)
  | .cls bytes s => if bytes || s.isAscii then .sparse s.length else .utf8 (classSequences s)
  | .look _ => .look
  | .rep min max _ sub => .rep min max (sub.minLen.any (· > 0)) (plan sub)
  | .capture _ _ sub => .capture (plan sub)
  | .concat subs => .concat (planList subs)
  | .alt subs =>
    match literalAlternatives subs with
    | some lits =>
      if lits.length ≥ 2 then .trie (literalsCost lits) (literalsCost (lits.map List.reverse))
      else .alt (planList subs)
    | none => .alt (planList subs)

/-- The plans of a list of expressions. -/
def planList : List Hir → List Plan
  | [] => []
  | h :: t => plan h :: planList t

end

/-- `n` copies of a piece one after the other; the empty expression when `n` is zero. Returns
whether the last copy ends in a choice state. -/
def times (piece : Build Bool) : Nat → Build Bool
  | 0 => do discard addState; pure false
  | 1 => piece
  | n + 2 => do
    let u ← piece
    link u
    times piece (n + 1)

/-- `n` optional copies after a piece ending as `prev` says, each behind a choice state. -/
def optionalRounds (piece : Build Bool) : Nat → Bool → Build Bool
  | 0, prev => pure prev
  | n + 1, prev => do
    discard addState
    let u ← piece
    link prev
    link true
    link true
    optionalRounds piece n u

/-- A repetition of a piece, `nonEmpty` saying whether every match of the piece is nonempty. -/
def repetition (piece : Build Bool) (min : Nat) (max : Option Nat) (nonEmpty : Bool) : Build Bool :=
  match min, max with
  | 0, some 1 => do
    discard addState
    let u ← piece
    discard addState
    link true
    link true
    link u
    pure false
  | 0, none =>
    if nonEmpty then do
      discard addState
      let u ← piece
      link true
      link u
      pure true
    else do
      let u ← piece
      discard addState
      link u
      link true
      discard addState
      discard addState
      link true
      link true
      link true
      pure false
  | 1, none => do
    let u ← piece
    discard addState
    link u
    link true
    pure true
  | n + 2, none => do
    let u ← times piece (n + 1)
    let v ← piece
    discard addState
    link u
    link v
    link true
    pure true
  | min, some max =>
    if min == max then times piece min
    else do
      let u ← times piece min
      discard addState
      let last ← optionalRounds piece (max - min) u
      link last
      pure false

mutual

/-- Counts the automaton of a plan, forward or backward; returns whether it ends in a choice
state. -/
def Plan.build (backward : Bool) : Plan → Build Bool
  | .empty => do discard addState; pure false
  | .literal n => do discard (grow n 0); pure false
  | .sparse n => do discard addState; discard (addSparse n); pure false
  | .utf8 seqs => do
    if backward then backwardClass seqs else forwardClass seqs
    pure false
  | .look => do discard addState; pure false
  | .capture sub =>
    if backward then sub.build backward
    else do
      discard addState
      let u ← sub.build backward
      discard addState
      link u
      pure false
  | .concat subs => if backward then Plan.buildBackward subs else Plan.buildForward subs
  | .alt subs => Plan.buildAlt backward subs
  | .trie f b => do
    let (states, lists) := if backward then b else f
    discard (grow states lists)
    pure false
  | .rep min max nonEmpty sub => repetition (sub.build backward) min max nonEmpty

/-- Counts a sequence from its first piece to its last. -/
def Plan.buildForward : List Plan → Build Bool
  | [] => do discard addState; pure false
  | [p] => p.build false
  | p :: ps => do
    let u ← p.build false
    link u
    Plan.buildForward ps

/-- Counts a sequence from its last piece to its first. -/
def Plan.buildBackward : List Plan → Build Bool
  | [] => do discard addState; pure false
  | [p] => p.build true
  | p :: ps => do
    let u ← Plan.buildBackward ps
    link u
    p.build true

/-- Counts an alternation: the first two alternatives, the choice and end states, then the
other alternatives. -/
def Plan.buildAlt (backward : Bool) : List Plan → Build Bool
  | [] => do discard addState; pure false
  | [p] => p.build backward
  | p :: q :: rest => do
    let u ← p.build backward
    let v ← q.build backward
    discard addState
    discard addState
    link true
    link u
    link true
    link v
    Plan.buildRest backward rest
    pure false

/-- Counts the alternatives after the second. -/
def Plan.buildRest (backward : Bool) : List Plan → Build Unit
  | [] => pure ()
  | p :: ps => do
    let u ← p.build backward
    link true
    link u
    Plan.buildRest backward ps

end

/-- Counts a whole automaton: the search loop unless the expression is anchored, group 0 when
forward, the expression and the match state. -/
def Plan.whole (p : Plan) (anchored backward : Bool) : Build Unit := do
  let loop ← if anchored then do discard addState; pure false
    else do
      discard addState
      discard addState
      discard (addSparse 1)
      link true
      pure true
  let u ← if backward then p.build true
    else do
      discard addState
      let u ← p.build false
      discard addState
      link u
      pure false
  discard addState
  link u
  link loop

/-- Does the automaton fit in the limit. -/
def Plan.fits (p : Plan) (anchored backward : Bool) : Bool :=
  match (p.whole anchored backward).run ⟨0, 0⟩ with
  | .ok _ => true
  | .error _ => false

end Size

/-- Do both automata of an expression, forward and backward, fit in the memory limit. -/
def Hir.fitsSizeLimit (h : Hir) : Bool :=
  let p := Size.plan h
  p.fits h.startAnchored false && p.fits h.endAnchored true

end BuildSpec.Pattern
