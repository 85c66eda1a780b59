/-!
# Compact tables of code points

The Unicode data of this library is kept as texts of hexadecimal numerals separated by commas,
read once into arrays. Two shapes are used:

* a *set table* lists closed intervals of code points in increasing order, each written as the
  gap from the code point after the previous interval (from zero) and its length less one;
  `Ranges.ofText` reads it;
* a *run table* covers every code point from zero with consecutive runs, each written as its
  length and a value; `Runs.ofText` reads it into the first code point of every run with the
  value.

Both are searched by halving (`countAtMost`): `Ranges.contains` and `Runs.valueAt` answer for
one code point, `Runs.rangesWhere` gives the intervals whose value passes a test.
-/

namespace BuildSpec.Unicode

/-- The value of a hexadecimal digit; zero for any other character. -/
def hexDigitValue (c : Char) : Nat :=
  if '0' ≤ c && c ≤ '9' then c.toNat - '0'.toNat
  else if 'A' ≤ c && c ≤ 'F' then c.toNat - 'A'.toNat + 10
  else if 'a' ≤ c && c ≤ 'f' then c.toNat - 'a'.toNat + 10
  else 0

/-- The number written by hexadecimal digits. -/
def hexNumeral (s : String) : Nat := s.foldl (fun n c => n * 16 + hexDigitValue c) 0

/-- The numbers of a table text. -/
def numerals (s : String) : List Nat :=
  if s.isEmpty then [] else (s.splitOn ",").map hexNumeral

/-- Closed intervals `[lo, hi]` of code points, in increasing order. -/
abbrev Ranges := Array (Nat × Nat)

/-- Runs of a run table: the first code point of each run with its value, in increasing order. -/
abbrev Runs := Array (Nat × Nat)

/-- The intervals written by gap and length pairs, the first starting from `next`. -/
def rangesOfNumerals : Nat → List Nat → List (Nat × Nat)
  | next, gap :: len :: rest => (next + gap, next + gap + len) :: rangesOfNumerals (next + gap + len + 1) rest
  | _, _ => []

/-- The runs written by length and value pairs, the first starting at `start`. -/
def runsOfNumerals : Nat → List Nat → List (Nat × Nat)
  | start, len :: value :: rest => (start, value) :: runsOfNumerals (start + len) rest
  | _, _ => []

/-- Reads a set table. -/
def Ranges.ofText (s : String) : Ranges := (rangesOfNumerals 0 (numerals s)).toArray

/-- Reads a run table. -/
def Runs.ofText (s : String) : Runs := (runsOfNumerals 0 (numerals s)).toArray

/-- How many entries of `a`, from position `lo` below `hi`, have a first component at most `n`,
plus `lo`: the search keeps `lo` below and `hi` above the boundary, so when the first components
increase it ends on the number of entries with a first component at most `n`. -/
def countAtMost (a : Array (Nat × Nat)) (n : Nat) (lo hi : Nat) : Nat :=
  if _h : lo < hi then
    let mid := (lo + hi) / 2
    match a[mid]? with
    | some (k, _) => if k ≤ n then countAtMost a n (mid + 1) hi else countAtMost a n lo mid
    | none => lo
  else lo
termination_by hi - lo

/-- Does an interval of the table hold the code point. -/
def Ranges.contains (a : Ranges) (n : Nat) : Bool :=
  match a[countAtMost a n 0 a.size - 1]? with
  | some (lo, hi) => countAtMost a n 0 a.size > 0 && lo ≤ n && n ≤ hi
  | none => false

/-- The value of the run that holds the code point. -/
def Runs.valueAt (a : Runs) (n : Nat) : Nat :=
  match a[countAtMost a n 0 a.size - 1]? with
  | some (_, v) => v
  | none => 0

/-- The largest code point. -/
def maxCode : Nat := 0x10FFFF

/-- The intervals covered by the runs whose value passes the test; the last run reaches the
largest code point. Neighbouring runs that both pass make one interval. -/
def Runs.rangesWhere (a : Runs) (p : Nat → Bool) : List (Nat × Nat) :=
  let bounds := (a.toList.zip ((a.toList.drop 1).map (·.1 - 1) ++ [maxCode]))
  let picked := bounds.filterMap fun ((start, v), stop) => if p v then some (start, stop) else none
  (picked.foldl (fun acc (lo, hi) =>
    match acc with
    | (plo, phi) :: rest => if phi + 1 == lo then (plo, hi) :: rest else (lo, hi) :: acc
    | [] => [(lo, hi)]) []).reverse

end BuildSpec.Unicode
