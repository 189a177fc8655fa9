/-!
# `WeatherStation.Time`: instants and durations

The station has one monotonic clock that counts microseconds from power-up. An
instant is a reading of that clock and a duration is a difference of two, so both
are natural numbers of microseconds. `seconds` and `millis` build durations.
-/

set_option autoImplicit false

namespace WeatherStation

/-- A number of microseconds: an instant of the uptime clock, or a duration. -/
abbrev Micros := Nat

/-- A whole number of seconds as a duration. -/
def seconds (n : Nat) : Micros := n * 1000000

/-- A whole number of milliseconds as a duration. -/
def millis (n : Nat) : Micros := n * 1000

/-- The whole seconds in an instant or a duration. -/
def Micros.toSeconds (t : Micros) : Nat := t / 1000000

/-- The whole milliseconds in an instant or a duration. -/
def Micros.toMillis (t : Micros) : Nat := t / 1000

end WeatherStation
