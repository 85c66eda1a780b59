import BuildSpec.Version.Basic

/-!
# Version ranges

A range is a closed interval of versions: every version, one version, all from a least one, all
up to a greatest one, or all between two. `Version.Range.join` is the intersection of two
ranges; `Version.Range.ofLimits` turns a pair of optional limits back into a range, naming a
one-point interval `exact` and refusing an empty one.
-/

namespace BuildSpec

/-- A closed interval of versions. -/
inductive Version.Range where
  | any
  | exact (v : Version)
  | atLeast (lo : Version)
  | atMost (hi : Version)
  | between (lo hi : Version)
  deriving Repr

namespace Version.Range

/-- Ranges are equal when they have the same shape and equal versions. -/
def beq : Version.Range → Version.Range → Bool
  | .any, .any => true
  | .exact a, .exact b => a == b
  | .atLeast a, .atLeast b => a == b
  | .atMost a, .atMost b => a == b
  | .between a b, .between c d => a == c && b == d
  | _, _ => false

instance : BEq Version.Range := ⟨beq⟩

/-- The lower and upper limit, `none` meaning unbounded. -/
def limits : Version.Range → Option Version × Option Version
  | .any => (none, none)
  | .exact v => (some v, some v)
  | .atLeast lo => (some lo, none)
  | .atMost hi => (none, some hi)
  | .between lo hi => (some lo, some hi)

/-- The range with these limits, `none` when it is empty. -/
def ofLimits : Option Version → Option Version → Option Version.Range
  | none, none => some .any
  | some lo, none => some (.atLeast lo)
  | none, some hi => some (.atMost hi)
  | some lo, some hi =>
    match Version.compare lo hi with
    | .gt => none
    | .eq => some (.exact lo)
    | .lt => some (.between lo hi)

/-- A range from an exact version or from limits, as written by a user. -/
def ofBounds : Option Version → Option Version → Option Version → Except Error Version.Range
  | none, none, none => .ok .any
  | none, none, some hi => .ok (.atMost hi)
  | none, some lo, none => .ok (.atLeast lo)
  | none, some lo, some hi =>
    match ofLimits (some lo) (some hi) with
    | some r => .ok r
    | none => .error (.parse "minimum version is greater than the maximum")
  | some v, none, none => .ok (.exact v)
  | some _, _, _ =>
    .error (.parse "Attempted to create bounds with both explicit and min or max version constraint")

/-- Does the range hold the version. -/
def contains (r : Version.Range) (v : Version) : Bool :=
  match r with
  | .any => true
  | .exact e => v == e
  | .atLeast lo => Version.compare v lo != .lt
  | .atMost hi => Version.compare v hi != .gt
  | .between lo hi => Version.compare lo v != .gt && Version.compare v hi != .gt

/-- The greater of two versions, the second one when they are equal. -/
def maxRight (a b : Version) : Version := if Version.compare a b == .gt then a else b

/-- The lesser of two versions, the first one when they are equal. -/
def minLeft (a b : Version) : Version := if Version.compare a b == .gt then b else a

/-- The intersection of two ranges, `none` when it is empty. Of two equal lower limits the
second one's text is kept, of two equal upper limits the first one's. -/
def join (a b : Version.Range) : Option Version.Range :=
  let (aLo, aHi) := a.limits
  let (bLo, bHi) := b.limits
  let lo := match aLo, bLo with
    | some x, some y => some (maxRight x y)
    | x, y => x.or y
  let hi := match aHi, bHi with
    | some x, some y => some (minLeft x y)
    | x, y => x.or y
  ofLimits lo hi

/-- Every version in `a` is in `b`. -/
def isSubset (a b : Version.Range) : Bool := join a b == some a

/-- The text of a range: `v`, `lo:`, `:hi`, `lo:hi`, or `:` for every version. -/
def text : Version.Range → String
  | .any => ":"
  | .exact v => v.text
  | .atLeast lo => lo.text ++ ":"
  | .atMost hi => ":" ++ hi.text
  | .between lo hi => lo.text ++ ":" ++ hi.text

end Version.Range

end BuildSpec
