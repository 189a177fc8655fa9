import WeatherStation.Mqtt.Exchange

/-!
# `WeatherStation.Watchdog`: a reset when the broker falls silent

The hardware watchdog resets the chip unless it is fed. It is fed as long as the broker
answers; when the broker has been silent for too long, the chip is reset on purpose.
-/

set_option autoImplicit false

namespace WeatherStation.Watchdog

/-- Seconds after which the watchdog resets the chip. -/
def timeoutSecs : Nat := 32

/-- Milliseconds between two feedings. -/
def feedPeriodMillis : Nat := 100

/-- An operation of the watchdog's hardware. -/
inductive Call where
  /-- Set the time limit of the first stage. -/
  | setTimeout (limit : Micros)
  | enable
  | feed
  /-- Reset the chip. Nothing follows. -/
  | softwareReset
  deriving DecidableEq, Repr

/-- What the supervision orders. -/
inductive Order where
  | feed
  | reset
  deriving DecidableEq, Repr

/-- How the watchdog is set up. -/
def setUp : List Call := [.setTimeout (seconds timeoutSecs), .enable]

/-- What to do with the broker's liveness. -/
def supervise : Mqtt.Liveness → Order
  | .alive => .feed
  | .silent _ => .reset

/-- The hardware operation of an order. -/
def Order.call : Order → Call
  | .feed => .feed
  | .reset => .softwareReset

end WeatherStation.Watchdog
