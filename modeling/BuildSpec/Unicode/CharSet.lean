import BuildSpec.Unicode.Table
import BuildSpec.Unicode.Data.Fold

/-!
# Sets of characters

A `CharSet` is a set of characters written as closed intervals of code points, in increasing
order, none touching the next: between two intervals lies at least one character. The code
points U+D800 to U+DFFF are not characters, so the intervals `[a, U+D7FF]` and `[U+E000, b]`
touch and are written as one; no interval starts or ends inside that gap. Every set has exactly
one such writing (`normalize` produces it), so two sets are equal exactly when their lists are.

The operations are those of character classes: union, intersection, difference, symmetric
difference, complement within the characters (or within the bytes, for classes of bytes), and
closure under case: `foldClose` adds every character that is the same up to case as a member,
`foldAscii` does the same for the ASCII letters only.
-/

namespace BuildSpec.Unicode

/-- A set of characters as closed intervals of code points, in the normal form above. -/
abbrev CharSet := List (Nat × Nat)

/-- The character after a code point, stepping over the gap U+D800 to U+DFFF. -/
def nextScalar (n : Nat) : Nat := if n == 0xD7FF then 0xE000 else n + 1

/-- The character before a code point, stepping over the gap U+D800 to U+DFFF. -/
def prevScalar (n : Nat) : Nat := if n == 0xE000 then 0xD7FF else n - 1

/-- Joins intervals sorted by their starts, merging those that overlap or touch. -/
def mergeSorted (rs : List (Nat × Nat)) : CharSet :=
  (rs.foldl (fun acc (lo, hi) =>
    match acc with
    | (plo, phi) :: rest => if lo ≤ nextScalar phi then (plo, max phi hi) :: rest else (lo, hi) :: acc
    | [] => [(lo, hi)]) []).reverse

/-- The normal form of any list of intervals. -/
def normalize (rs : List (Nat × Nat)) : CharSet :=
  mergeSorted ((rs.map fun (a, b) => (min a b, max a b)).mergeSort (fun x y => x.1 ≤ y.1))

/-- Does the set hold the code point. -/
def CharSet.contains (s : CharSet) (n : Nat) : Bool := s.any fun (lo, hi) => lo ≤ n && n ≤ hi

/-- The characters of either set. -/
def CharSet.union (a b : CharSet) : CharSet := normalize (a ++ b)

/-- The complement of a set within the code points up to `top`: the characters up to `top`
for classes of characters (`maxCode`), the bytes for classes of bytes (`0xFF`). -/
def CharSet.complementUpTo (top : Nat) (s : CharSet) : CharSet :=
  match s with
  | [] => [(0, top)]
  | (first, _) :: _ =>
    let before := if first > 0 then [(0, prevScalar first)] else []
    let between := (s.zip (s.drop 1)).map fun ((_, a), (b, _)) => (nextScalar a, prevScalar b)
    let last := s.foldl (fun _ (_, hi) => hi) 0
    let after := if last < top then [(nextScalar last, top)] else []
    before ++ between ++ after

/-- The complement of a set within all characters. -/
def CharSet.complement (s : CharSet) : CharSet := s.complementUpTo maxCode

/-- The characters of both sets. -/
def CharSet.inter (a b : CharSet) : CharSet := (a.complement.union b.complement).complement

/-- The characters of the first set that are not in the second. -/
def CharSet.diff (a b : CharSet) : CharSet := a.inter b.complement

/-- The characters of exactly one of the sets. -/
def CharSet.symmDiff (a b : CharSet) : CharSet := (a.union b).diff (a.inter b)

/-- Reads classes written as a size followed by that many numbers. -/
def groupsOfNumerals (ns : List Nat) : List (List Nat) :=
  match ns with
  | [] => []
  | n :: rest => rest.take n :: groupsOfNumerals (rest.drop n)
termination_by ns.length
decreasing_by
  simp only [List.length_drop, List.length_cons]
  omega

/-- The classes of characters that are the same up to case, each of two or more. -/
def foldClasses : List (List Nat) := groupsOfNumerals (numerals foldClassesText)

/-- The set with every character that is the same up to case as one of its members. -/
def CharSet.foldClose (s : CharSet) : CharSet :=
  let met := foldClasses.filter fun cls => cls.any s.contains
  s.union (met.flatten.map fun c => (c, c))

/-- The set with the other case of each of its ASCII letters. -/
def CharSet.foldAscii (s : CharSet) : CharSet :=
  let lowers := s.inter [(0x61, 0x7A)]
  let uppers := s.inter [(0x41, 0x5A)]
  s.union (lowers.map (fun (a, b) => (a - 32, b - 32)) ++ uppers.map (fun (a, b) => (a + 32, b + 32)))

/-- Are all members of the set ASCII. -/
def CharSet.isAscii (s : CharSet) : Bool := s.all fun (_, hi) => hi ≤ 0x7F

/-- The number of bytes of a character in UTF-8. -/
def utf8Length (n : Nat) : Nat :=
  if n < 0x80 then 1 else if n < 0x800 then 2 else if n < 0x10000 then 3 else 4

end BuildSpec.Unicode
