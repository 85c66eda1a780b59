import BuildSpec.Number.Binary64

/-!
# Shortest decimal text of a double

`Binary64.shortest` finds the decimal with the fewest significant digits that reads back as the
same double, and of those the one nearest to it. The search is exact arithmetic on naturals: for
one digit, then two, up to seventeen, the two neighbours of the value on that decimal grid are
tested against the interval of reals that round to the value.

How the digits are laid out is a record, `Layout`: which decimal exponents are written
positionally, whether a whole number keeps `.0`, and how an exponent is marked. Three layouts are
used: `Layout.number` for the text of a number in a variant default, `Layout.written` for numbers
in written documents, and `Layout.plain` for numbers quoted in messages.
-/

namespace BuildSpec

namespace Binary64

/-- `c · 10^t` compared with `x · 2^s`, exactly. -/
def cmpDecBin (c : Nat) (t : Int) (x : Nat) (s : Int) : Ordering :=
  compare (c * Nat.pow 10 t.toNat * Nat.pow 2 (-s).toNat) (x * Nat.pow 2 s.toNat * Nat.pow 10 (-t).toNat)

/-- `⌊x · 2^s / 10^t⌋`. -/
def floorDecGrid (x : Nat) (s t : Int) : Nat :=
  (x * Nat.pow 2 s.toNat * Nat.pow 10 (-t).toNat) / (Nat.pow 10 t.toNat * Nat.pow 2 (-s).toNat)

/-- Moves an estimate `e` of `⌊log₁₀ (x · 2^s)⌋` to the exact value, a step at a time. -/
def fixDecExp (x : Nat) (s : Int) : Nat → Int → Int
  | 0, e => e
  | fuel + 1, e =>
    if cmpDecBin 1 e x s == .gt then fixDecExp x s fuel (e - 1)
    else if cmpDecBin 1 (e + 1) x s != .gt then fixDecExp x s fuel (e + 1)
    else e

/-- `⌊log₁₀ (x · 2^s)⌋` for `x > 0`. -/
def decExp (x : Nat) (s : Int) : Int :=
  fixDecExp x s 8 ((((Nat.log2 x : Int) + s) * 30103).fdiv 100000)

/-- Is `c · 10^t` inside the rounding interval `[lo, hi] · 2^s` (ends only when `closed`). -/
def inInterval (c : Nat) (t : Int) (lo hi : Nat) (s : Int) (closed : Bool) : Bool :=
  let a := cmpDecBin c t lo s
  let b := cmpDecBin c t hi s
  (a == .gt || (closed && a == .eq)) && (b == .lt || (closed && b == .eq))

/-- Drops trailing zero digits, raising the exponent for each. -/
def stripZeros : Nat → Nat → Int → Nat × Int
  | 0, c, t => (c, t)
  | fuel + 1, c, t => if c != 0 && c % 10 == 0 then stripZeros fuel (c / 10) (t + 1) else (c, t)

/-- The search over digit counts `n, n+1, …, 17` for a positive value `v = x · 2^s` whose rounding
interval is `[lo, hi] · 2^s`, with `e = ⌊log₁₀ v⌋`. -/
def searchDigits (x lo hi : Nat) (s e : Int) (closed : Bool) : Nat → Nat → Nat × Int
  | 0, _ => (floorDecGrid x s (e - 16), e - 16)
  | fuel + 1, n =>
    let t := e - (n : Int) + 1
    let c := floorDecGrid x s t
    let down := inInterval c t lo hi s closed
    let up := inInterval (c + 1) t lo hi s closed
    if down && up then
      -- both neighbours read back: the nearer wins, an exact tie goes to the even one
      match cmpDecBin (2 * c + 1) t (2 * x) s with
      | .lt => (c + 1, t)
      | .gt => (c, t)
      | .eq => if c % 2 == 0 then (c, t) else (c + 1, t)
    else if down then (c, t)
    else if up then (c + 1, t)
    else searchDigits x lo hi s e closed fuel (n + 1)

/-- The shortest digits `d` and exponent `t` with `d · 10^t` reading back as `|v|`, for a
nonzero value; `d` has no trailing zero. -/
def shortest (v : Binary64) : Nat × Int :=
  let m := v.mant
  -- the interval around `4m · 2^(exp-2)`; its lower half is narrower at a power of two
  let lower := if m = Nat.pow 2 52 ∧ v.exp > minExp then 4 * m - 1 else 4 * m - 2
  let s := v.exp - 2
  let e := decExp (4 * m) s
  let (c, t) := searchDigits (4 * m) lower (4 * m + 2) s e (m % 2 == 0) 17 1
  stripZeros 400 c t

end Binary64

/-- How a double is written: decimal exponents `x` with `positionalFrom ≤ x ≤ positionalTo`
are written with a point (a missing bound means no limit on that side), others as
`d.ddd` with an exponent mark. -/
structure Layout where
  positionalFrom : Option Int
  positionalTo : Option Int
  /-- Writes `+` before a positive exponent. -/
  plusSign : Bool
  /-- The exponent has at least this many digits. -/
  expDigits : Nat
  deriving Repr

namespace Layout

/-- Numbers turned into variant values: positional from `1e-5` below `1e16`, otherwise the
fewest exponent digits, with `+` before a positive exponent. -/
def number : Layout := ⟨some (-5), some 15, true, 1⟩

/-- Numbers written into documents: positional from `1e-5` below `1e16`, a bare exponent. -/
def written : Layout := ⟨some (-5), some 15, false, 1⟩

/-- Numbers quoted in messages, laid out as variant values are. -/
def plain : Layout := number

/-- Is the decimal exponent `x` written positionally. -/
def positional (l : Layout) (x : Int) : Bool :=
  (match l.positionalFrom with | some a => decide (a ≤ x) | none => true) &&
  (match l.positionalTo with | some b => decide (x ≤ b) | none => true)

/-- Left-pads a digit string with zeros to `n` digits. -/
def padDigits (n : Nat) (ds : List Char) : List Char :=
  List.replicate (n - ds.length) '0' ++ ds

/-- Writes `d · 10^t` (no trailing zero in `d`, `d > 0`) in this layout; a whole number written
positionally keeps `.0`. -/
def render (l : Layout) (d : Nat) (t : Int) : String :=
  let ds := Nat.toDigits 10 d
  let len := ds.length
  let x : Int := t + len - 1
  if l.positional x then
    if 0 ≤ t then
      String.ofList (ds ++ List.replicate t.toNat '0' ++ ['.', '0'])
    else if 0 ≤ x then
      let k := (x + 1).toNat
      String.ofList (ds.take k ++ ['.'] ++ ds.drop k)
    else
      String.ofList (['0', '.'] ++ List.replicate (-x - 1).toNat '0' ++ ds)
  else
    let mant := match ds with
      | [] => ['0']
      | [c] => [c]
      | c :: rest => c :: '.' :: rest
    let sign : List Char := if x < 0 then ['-'] else if l.plusSign then ['+'] else []
    String.ofList (mant ++ ['e'] ++ sign ++ padDigits l.expDigits (Nat.toDigits 10 x.natAbs))

end Layout

namespace Binary64

/-- The text of a double in the given layout; zero is `0.0`, with its sign. -/
def toText (l : Layout) (v : Binary64) : String :=
  let sign := if v.neg then "-" else ""
  if v.isZero then sign ++ "0.0"
  else
    let (d, t) := v.shortest
    sign ++ l.render d t

end Binary64

end BuildSpec
