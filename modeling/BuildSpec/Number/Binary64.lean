/-!
# Finite binary64 values

A finite double is a sign, an integer mantissa and a power of two. Every operation here is
exact arithmetic on naturals followed by one rounding to the nearest double, with ties going to
the even mantissa, which is what the hardware does for a single sum, product or quotient.

Numbers in recipe documents are read as a decimal significand and a power of ten, and
`ofDecimal` combines them the way the document reader does: the significand is rounded to a
double, then multiplied or divided by the double nearest to the power of ten. Two roundings
can land one step away from the double nearest to the decimal, and the text written for the
number shows that step, so it is kept.
-/

namespace BuildSpec

/-- A finite binary64 value `(-1)^neg · mant · 2^exp`. A normal value has
`2^52 ≤ mant < 2^53`; a subnormal value or zero has `exp = -1074` and `mant < 2^52`. -/
structure Binary64 where
  neg : Bool
  mant : Nat
  exp : Int
  deriving DecidableEq, Repr

namespace Binary64

/-- Positive zero. -/
def zero : Binary64 := ⟨false, 0, -1074⟩

/-- The smallest exponent of a mantissa unit. -/
def minExp : Int := -1074

/-- `num / den · 2^(-e)` as a fraction of naturals. -/
def scaleFrac (num den : Nat) (e : Int) : Nat × Nat :=
  if 0 ≤ e then (num, den * Nat.pow 2 e.toNat) else (num * Nat.pow 2 (-e).toNat, den)

/-- The quotient `a / b` rounded to the nearest natural, a half going to the even one. -/
def divRoundEven (a b : Nat) : Nat :=
  let q := a / b
  let r := a % b
  if 2 * r < b then q
  else if b < 2 * r then q + 1
  else if q % 2 == 0 then q else q + 1

/-- The double nearest to the fraction `num / den`, as mantissa and exponent, or `none` when it
rounds to a value of `2^1024` or more. -/
def roundFrac (num den : Nat) : Option (Nat × Int) :=
  if num = 0 ∨ den = 0 then some (0, minExp) else
  let k : Int := (Nat.log2 num : Int) - (Nat.log2 den : Int)
  let e0 := k - 52
  let e1 := if (scaleFrac num den e0).1 / (scaleFrac num den e0).2 < Nat.pow 2 52 then e0 - 1 else e0
  let e := max e1 minExp
  let q := divRoundEven (scaleFrac num den e).1 (scaleFrac num den e).2
  let (m, e') := if q = Nat.pow 2 53 then (Nat.pow 2 52, e + 1) else (q, e)
  if 1023 < e' + 52 then none else some (m, e')

/-- The double nearest to `num / den · 2^shift`, with the given sign. -/
def ofScaledFrac (neg : Bool) (num den : Nat) (shift : Int) : Option Binary64 :=
  let (a, b) := scaleFrac num den (-shift)
  (roundFrac a b).map fun (m, e) => ⟨neg, m, e⟩

/-- The double nearest to a natural number. -/
def ofNat (n : Nat) : Binary64 :=
  (ofScaledFrac false n 1 0).getD zero

/-- Is this value zero, of either sign. -/
def isZero (x : Binary64) : Bool := x.mant == 0

/-- The value with its sign flipped. -/
def negate (x : Binary64) : Binary64 := { x with neg := !x.neg }

/-- The rounded product, `none` when it overflows. -/
def mul (x y : Binary64) : Option Binary64 :=
  ofScaledFrac (x.neg != y.neg) (x.mant * y.mant) 1 (x.exp + y.exp)

/-- The rounded quotient by a nonzero value. -/
def div (x y : Binary64) : Option Binary64 :=
  ofScaledFrac (x.neg != y.neg) x.mant y.mant (x.exp - y.exp)

/-- The double nearest to `10^k`. -/
def pow10 (k : Nat) : Binary64 :=
  (ofScaledFrac false (Nat.pow 10 k) 1 0).getD zero

/-- Applies a power of ten to `f` as the document reader does: one multiplication or division by
the nearest double to `10^|exponent|` when `|exponent| ≤ 308`, otherwise repeated division by
`1e308` until the exponent is in reach. `none` means the result is too large. -/
def applyPow10 (f : Binary64) (exponent : Int) : Option Binary64 :=
  if _h : exponent.natAbs ≤ 308 then
    if 0 ≤ exponent then f.mul (pow10 exponent.natAbs)
    else f.div (pow10 exponent.natAbs)
  else if f.isZero then some f
  else if 0 ≤ exponent then none
  else
    match f.div (pow10 308) with
    | some g => applyPow10 g (exponent + 308)
    | none => none
termination_by exponent.natAbs
decreasing_by omega

/-- The value of `significand · 10^exponent` as the document reader computes it. -/
def ofDecimal (neg : Bool) (significand : Nat) (exponent : Int) : Option Binary64 :=
  (applyPow10 (ofNat significand) exponent).map fun f => if neg then f.negate else f

end Binary64

end BuildSpec
