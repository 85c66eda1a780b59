import BuildSpec.Version.Range

/-!
# Version constraints

A constraint is a union of version ranges, written as the ranges joined by commas:
`1.2`, `1.0:2.0`, `:2.7.999`, `1.8.16:`, `1.0,1.4:1.6`; a lone `:` allows every version.

A constraint is kept normal: a union that holds `:` is `:` alone, and otherwise the ranges are
sorted by lower limit (unbounded first) then upper limit (unbounded last), with a range equal to
the one before it dropped. So two constraints built from the same ranges in any order compare
equal.
-/

namespace BuildSpec

/-- A union of version ranges, kept normal. -/
structure Version.Constraint where
  ranges : List Version.Range
  deriving Repr

namespace Version.Constraint

instance : BEq Version.Constraint := ⟨fun a b => a.ranges == b.ranges⟩

/-- Every version. -/
def any : Version.Constraint := ⟨[.any]⟩

/-- One version. -/
def exact (v : Version) : Version.Constraint := ⟨[.exact v]⟩

/-- Optional versions ordered with `none` first. -/
def compareLower : Option Version → Option Version → Ordering
  | none, none => .eq
  | none, some _ => .lt
  | some _, none => .gt
  | some a, some b => Version.compare a b

/-- Optional versions ordered with `none` last. -/
def compareUpper : Option Version → Option Version → Ordering
  | none, none => .eq
  | none, some _ => .gt
  | some _, none => .lt
  | some a, some b => Version.compare a b

/-- The order of ranges in a normal constraint. -/
def compareRanges (a b : Version.Range) : Ordering :=
  (compareLower a.limits.1 b.limits.1).then (compareUpper a.limits.2 b.limits.2)

/-- Drops each range equal to the one before it. -/
def dedup : List Version.Range → List Version.Range
  | a :: b :: rest => if a == b then dedup (a :: rest) else a :: dedup (b :: rest)
  | rs => rs

/-- The normal constraint of a union of ranges. -/
def normalize (rs : List Version.Range) : Version.Constraint :=
  if rs.any (fun r => r == .any) then any
  else ⟨dedup (rs.mergeSort fun a b => compareRanges a b != .gt)⟩

/-- The constraint of a nonempty union of ranges. -/
def ofRanges? (rs : List Version.Range) : Option Version.Constraint :=
  if rs.isEmpty then none else some (normalize rs)

/-- The text before the first `:` and the text after it. -/
def splitColon (s : String) : Option (String × String) :=
  let cs := s.toList
  if cs.contains ':' then
    some (String.ofList (cs.takeWhile (· != ':')), String.ofList ((cs.dropWhile (· != ':')).drop 1))
  else none

/-- Reads one range of a constraint's text, already trimmed. -/
def parseRange (item : String) : Except Error Version.Range :=
  match splitColon item with
  | some (lo, hi) => do
    let lo ← if lo.isEmpty then pure none else some <$> Version.parse lo
    let hi ← if hi.isEmpty then pure none else some <$> Version.parse hi
    Version.Range.ofBounds none lo hi
  | none => Version.Range.exact <$> Version.parse item

/-- Reads a constraint: ranges separated by commas, each trimmed and none empty. -/
def parse (s : String) : Except Error Version.Constraint := do
  let rs ← (Text.split ',' s).mapM fun item =>
    let item := Text.trim item
    if item.isEmpty then .error (.parse s!"empty version range in \"{s}\"")
    else parseRange item
  pure (normalize rs)

/-- Does the constraint allow every version. -/
def isAny (c : Version.Constraint) : Bool :=
  match c.ranges with
  | [.any] => true
  | _ => false

/-- Does some range of the constraint hold the version. -/
def contains (c : Version.Constraint) (v : Version) : Bool :=
  c.ranges.any (·.contains v)

/-- The versions allowed by both, `none` when there are none. -/
def intersection (a b : Version.Constraint) : Option Version.Constraint :=
  ofRanges? (a.ranges.flatMap fun x => b.ranges.filterMap fun y => x.join y)

/-- Do the constraints share a version. -/
def overlaps (a b : Version.Constraint) : Bool := (intersection a b).isSome

/-- Every range of `a` lies within some range of `b`. -/
def isSubset (a b : Version.Constraint) : Bool :=
  a.ranges.all fun r => b.ranges.any fun o => r.isSubset o

/-- The text of a constraint: its ranges joined by commas. -/
def text (c : Version.Constraint) : String :=
  ",".intercalate (c.ranges.map (·.text))

/-- Narrows `a` to the versions also allowed by `b`, and tells whether it changed. Fails when
they share no version, naming `b` as provided and `a` as required. -/
def constrain (a b : Version.Constraint) : Except Error (Version.Constraint × Bool) :=
  match intersection a b with
  | some j => .ok (j, !(j == a))
  | none => .error (.versionConflict b.text a.text)

end Version.Constraint

end BuildSpec
