/-!
# `WeatherStation.Decimal.Tenths`: fixed-point values with one decimal

Temperatures and humidities are counted in tenths. `Tenths.toText` writes a count of
tenths with exactly one decimal: a minus sign if it is negative, the whole part, a point
and the last digit.
-/

set_option autoImplicit false

namespace WeatherStation

/-- A count of tenths. -/
structure Tenths where
  count : Int32
  deriving DecidableEq, Repr, Inhabited

/-- The value with one decimal. -/
def Tenths.toText (t : Tenths) : String :=
  let magnitude := t.count.toInt.natAbs
  (if t.count.toInt < 0 then "-" else "") ++ Nat.repr (magnitude / 10) ++ "." ++
    Nat.repr (magnitude % 10)

end WeatherStation
