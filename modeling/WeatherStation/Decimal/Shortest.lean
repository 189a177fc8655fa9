import WeatherStation.Decimal.Binary32

/-!
# `WeatherStation.Decimal.Shortest`: the fewest digits that read back

A binary32 number is the nearest one to a whole interval of reals. `shortest` finds
the decimal with the fewest digits in that interval, and of those the nearest to
the number: for one, two, … nine digits it looks at the two neighbours of the number on
the grid of decimals with that many digits, all in natural-number arithmetic.

`Layout` holds the decisions of a text format (where positional notation ends and how
an exponent is written), and `Layout.write` lays out sign, digits and exponent. The
layout of the station's messages is `Layout.message`.
-/

set_option autoImplicit false

namespace WeatherStation.Decimal

/-- A positive decimal `coefficient * 10 ^ exponent`. -/
structure Scaled where
  coefficient : Nat
  exponent : Int
  deriving DecidableEq, Repr

/-- Compares `k * 10 ^ e` with `y * 2 ^ p` exactly: both are multiplied by the powers that
make the exponents natural. The answer is the pair of the two products. -/
def comparable (k : Nat) (e : Int) (y : Nat) (p : Int) : Nat × Nat :=
  (k * Nat.pow 10 e.toNat * Nat.pow 2 (-p).toNat,
    y * Nat.pow 2 p.toNat * Nat.pow 10 (-e).toNat)

/-- The reals that round to a number, in quarters of its unit: from `low` to `high` times
`2 ^ exponent`, with `middle` the number itself. -/
structure Interval where
  low : Nat
  middle : Nat
  high : Nat
  exponent : Int
  /-- Both ends belong to it. -/
  closed : Bool

/-- Half a unit reaches up, and down too unless the number is the first of its
binade, where the unit below is half as large. Ties go to the even significand. -/
def Interval.ofMagnitude (m : Binary32.Magnitude) : Interval :=
  let quarters := 4 * m.significand
  let first := m.significand = 0x800000 ∧ -149 < m.exponent
  { low := if first then quarters - 1 else quarters - 2
    middle := quarters
    high := quarters + 2
    exponent := m.exponent - 2
    closed := m.significand % 2 = 0 }

/-- Whether `k * 10 ^ e` rounds to the number. -/
def Interval.holds (i : Interval) (k : Nat) (e : Int) : Bool :=
  let (x, low) := comparable k e i.low i.exponent
  let (x', high) := comparable k e i.high i.exponent
  if i.closed then low ≤ x && x' ≤ high else low < x && x' < high

/-- The largest multiple of `10 ^ e` not above the number, in units of `10 ^ e`. -/
def Interval.floor (i : Interval) (e : Int) : Nat :=
  let (unit, value) := comparable 1 e i.middle i.exponent
  value / unit

/-- Whether the upper of the two neighbours `k` and `k + 1` is nearer to the number than the
lower, or as near and even. -/
def Interval.upperIsNearer (i : Interval) (k : Nat) (e : Int) : Bool :=
  let (twice, value) := comparable (2 * k + 1) e (2 * i.middle) i.exponent
  twice < value || (twice == value && k % 2 == 1)

/-- The better of the two neighbours on the grid `10 ^ e`, if one of them rounds to the number. -/
def Interval.onGrid (i : Interval) (e : Int) : Option Scaled :=
  let k := i.floor e
  let lower := i.holds k e && k != 0
  let upper := i.holds (k + 1) e
  if lower && upper then some ⟨if i.upperIsNearer k e then k + 1 else k, e⟩
  else if lower then some ⟨k, e⟩
  else if upper then some ⟨k + 1, e⟩
  else none

/-- The exponent of the leading decimal digit, searched downwards from `e`. -/
def Interval.leading (i : Interval) : (fuel : Nat) → (e : Int) → Int
  | 0, e => e
  | fuel + 1, e => if i.floor e = 0 then i.leading fuel (e - 1) else e

/-- The first grid, from coarse to fine, that holds a decimal which rounds to the number. -/
def Interval.coarsest (i : Interval) : (fuel : Nat) → (e : Int) → Scaled
  | 0, e => ⟨i.floor e, e⟩
  | fuel + 1, e => match i.onGrid e with
    | some s => s
    | none => i.coarsest fuel (e - 1)

/-- Moves the trailing zeros of the coefficient into the exponent. -/
def Scaled.trimZeros : (fuel : Nat) → Scaled → Scaled
  | 0, s => s
  | fuel + 1, s =>
    if s.coefficient ≠ 0 ∧ s.coefficient % 10 = 0 then
      trimZeros fuel ⟨s.coefficient / 10, s.exponent + 1⟩
    else s

/-- The shortest decimal of a positive finite number. No binary32 number reaches `10 ^ 39` or
is below `10 ^ (-46)`, and nine digits always suffice. -/
def shortest (m : Binary32.Magnitude) : Scaled :=
  let i := Interval.ofMagnitude m
  (i.coarsest 9 (i.leading 86 39)).trimZeros 10

/-- How a text format lays out a decimal. -/
structure Layout where
  /-- The least exponent of the leading digit that is written positionally. -/
  leastPositional : Int
  /-- The greatest exponent of the leading digit that is written positionally. -/
  greatestPositional : Int
  /-- Whether a whole number in positional notation ends in a point and a zero. -/
  keepsPoint : Bool
  /-- The mark before an exponent. -/
  mark : String
  /-- The sign of an exponent that is not negative. -/
  plus : String

/-- Messages write numbers positionally from `10 ^ (-6)` up to below `10 ^ 13`, always with a
point, and otherwise in exponent notation with a sign. -/
def Layout.message : Layout := ⟨-6, 12, true, "e", "+"⟩

/-- `n` zeros. -/
def zeros (n : Nat) : String := String.ofList (List.replicate n '0')

/-- Digits and exponent in the layout, without a sign. -/
def Layout.write (l : Layout) (s : Scaled) : String :=
  let digits := (Nat.repr s.coefficient).toList
  let count := digits.length
  let lead : Int := s.exponent + count - 1
  if l.leastPositional ≤ lead ∧ lead ≤ l.greatestPositional then
    if 0 ≤ s.exponent then
      String.ofList digits ++ zeros s.exponent.toNat ++ (if l.keepsPoint then ".0" else "")
    else if 0 ≤ lead then
      let whole := lead.toNat + 1
      String.ofList (digits.take whole) ++ "." ++ String.ofList (digits.drop whole)
    else
      "0." ++ zeros ((-lead).toNat - 1) ++ String.ofList digits
  else
    let point := if count = 1 then "" else "."
    let exponent :=
      if 0 ≤ lead then l.plus ++ Nat.repr lead.toNat else "-" ++ Nat.repr (-lead).toNat
    String.ofList (digits.take 1) ++ point ++ String.ofList (digits.drop 1) ++ l.mark ++ exponent

/-- A number in the layout, `none` for infinities and NaNs. Zero keeps its sign. -/
def Layout.text? (l : Layout) (x : Binary32) : Option String :=
  x.magnitude.map fun m =>
    let sign := if x.negative then "-" else ""
    if m.significand = 0 then sign ++ l.write ⟨0, 0⟩ else sign ++ l.write (shortest m)

end WeatherStation.Decimal
