/-!
# `WeatherStation.Decimal.Binary32`: single-precision numbers as bit patterns

A coordinate of the station is an IEEE 754 binary32 number. It is kept as its 32
bits, so that equality is equality of bits and every operation is integer
arithmetic. `Binary32.magnitude` decodes the bits: a number that is neither infinite
nor a NaN is `± m · 2 ^ q` with natural `m` and `q ≥ -149`.
-/

set_option autoImplicit false

namespace WeatherStation

/-- A binary32 number, as its interchange bits. -/
structure Binary32 where
  bits : UInt32
  deriving DecidableEq, Repr, Inhabited

namespace Binary32

/-- The sign bit. -/
def negative (x : Binary32) : Bool := decide (0x80000000 ≤ x.bits.toNat)

/-- The biased exponent, eight bits. -/
def exponentField (x : Binary32) : Nat := x.bits.toNat / 0x800000 % 0x100

/-- The trailing significand, 23 bits. -/
def fraction (x : Binary32) : Nat := x.bits.toNat % 0x800000

/-- The absolute value of a finite number is `significand * 2 ^ exponent`. -/
structure Magnitude where
  significand : Nat
  exponent : Int
  deriving DecidableEq, Repr

/-- The absolute value, `none` for infinities and NaNs. A zero exponent field has no
implicit leading bit and shares the exponent of the next field. -/
def magnitude (x : Binary32) : Option Magnitude :=
  if x.exponentField = 255 then none
  else if x.exponentField = 0 then some ⟨x.fraction, -149⟩
  else some ⟨0x800000 + x.fraction, Int.ofNat x.exponentField - 150⟩

/-- Whether the bits stand for no number. -/
def isNaN (x : Binary32) : Bool := x.exponentField == 255 && x.fraction != 0

/-- The bit pattern of positive infinity. -/
def infinityBits : Nat := 0x7f800000

/-- Assembles a number from its sign and the 31 bits below it. -/
def ofSign (negative : Bool) (low : Nat) : Binary32 :=
  ⟨UInt32.ofNat (if negative then 0x80000000 + low else low)⟩

end Binary32

end WeatherStation
