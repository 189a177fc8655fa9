/-!
# `WeatherStation.Station.Boundary`: the minutes in which a publish period ends

A boundary fires in the minutes of the hour that the publish period divides, and once in
each such minute. Times are seconds since the epoch.
-/

set_option autoImplicit false

namespace WeatherStation

/-- When a publish period ends. -/
structure Boundary where
  /-- Length of the period in minutes. -/
  period : UInt32
  /-- The minute since the epoch in which it fired last. -/
  lastMinute : Option Nat
  deriving DecidableEq, Repr, Inhabited

namespace Boundary

/-- A boundary that has not fired. A period of zero minutes counts as one minute. -/
def new (period : UInt32) : Boundary := ⟨if period = 0 then 1 else period, none⟩

/-- Whether the boundary fires at a time: it does the first time one falls into a minute that
ends a period. -/
def check (b : Boundary) (now : Nat) : Bool × Boundary :=
  let minute := now / 60
  if minute % 60 % b.period.toNat ≠ 0 ∨ b.lastMinute = some minute then (false, b)
  else (true, { b with lastMinute := some minute })

end Boundary

end WeatherStation
