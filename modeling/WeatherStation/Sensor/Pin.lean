import WeatherStation.Sensor.Cycle

/-!
# `WeatherStation.Sensor.Pin`: the data line on a general-purpose pin

The line is an open-drain pin with a pull-up that is input and output at once. Each line
operation is a short sequence of pin operations. The interrupt handler takes the time
first, then clears the pin's flag if it is set, and only then reports an edge, so an
interrupt of another pin changes nothing.
-/

set_option autoImplicit false

namespace WeatherStation.Sensor

/-- An operation of the pin. -/
inductive PinCall where
  /-- Configure the output as open drain with a pull-up. -/
  | configureOutput
  /-- Configure the input with a pull-up. -/
  | configureInput
  | enableInput
  | enableOutput
  | setLow
  | setHigh
  | clearInterrupt
  | listenFallingEdge
  | unlisten
  deriving DecidableEq, Repr

/-- How the pin is set up: released, input and output both on. -/
def pinSetUp : List PinCall :=
  [.configureOutput, .configureInput, .enableInput, .enableOutput, .setHigh]

/-- The pin operations of a line operation. A stale flag is cleared before listening. -/
def LineCall.pinCalls : LineCall → List PinCall
  | .low => [.setLow]
  | .high => [.setHigh]
  | .listen => [.clearInterrupt, .listenFallingEdge]
  | .unlisten => [.unlisten]

/-- The clock that times edges: the low 32 bits of the uptime. -/
def edgeClock (now : Micros) : UInt32 := UInt32.ofNat now

/-- The interrupt handler: the pin operations it makes and the capture after it. `stamp` is what
the edge clock showed when it began, and `flagged` says whether the pin's interrupt flag is set. -/
def handleInterrupt (capture : Capture) (stamp : UInt32) (flagged : Bool) :
    List PinCall × Capture :=
  if flagged then ([.clearInterrupt], capture.fallingEdge stamp) else ([], capture)

end WeatherStation.Sensor
