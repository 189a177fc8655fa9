import WeatherStation.Sensor.Capture
import WeatherStation.Time

/-!
# `WeatherStation.Sensor.Cycle`: one read of the sensor, step by step

A read pulls the data line low for 18 ms, releases it, captures the sensor's edges for at
most 50 ms and decodes them. `Stage` says where a read stands, and `Stage.call?` which
operation of the data line belongs to the stage. `next` does one stage's work on the
capture; between any two steps the interrupt side may report edges. A stage that waits has
no next step until its time has come or the capture has signalled completion.
-/

set_option autoImplicit false

namespace WeatherStation.Sensor

/-- Length of the start pulse. -/
def startPulse : Micros := millis 18

/-- Time the sensor has to deliver the frame. -/
def readTimeout : Micros := millis 50

/-- An operation of the open-drain data line. -/
inductive LineCall where
  /-- Assert the start pulse. -/
  | low
  /-- Release the line to its pull-up. -/
  | high
  /-- Enable the interrupt of the falling edge. -/
  | listen
  /-- Disable it. -/
  | unlisten
  deriving DecidableEq, Repr

/-- Where a read stands. -/
inductive Stage where
  | disarming
  | lowering
  | pulsing (due : Micros)
  | raising
  | clearing
  | arming
  | listening
  | waiting (due : Micros)
  | unlistening (complete : Bool)
  | collecting (complete : Bool)
  | finished (result : Except ReadError Reading)

/-- What a step sees of its surroundings. -/
structure Surroundings where
  /-- The uptime clock, which the two waits run on. -/
  now : Micros
  /-- The clock that times the edges. -/
  stamp : UInt32
  /-- Whether driving the line succeeds. -/
  driven : Bool

namespace Stage

/-- The line operation that the stage performs. -/
def call? : Stage → Option LineCall
  | lowering => some .low
  | raising => some .high
  | listening => some .listen
  | unlistening _ => some .unlisten
  | _ => none

/-- When a waiting stage stops waiting on its own. -/
def due? : Stage → Option Micros
  | pulsing due => some due
  | waiting due => some due
  | _ => none

/-- The result of a finished read. -/
def result? : Stage → Option (Except ReadError Reading)
  | finished result => some result
  | _ => none

/-- The step a stage takes: the stage after it and the capture as the step leaves it. While a
stage waits, and once the read is finished, there is none. The signal is looked at before
the time limit, so a frame that is complete at the limit still counts. -/
def next (sees : Surroundings) (capture : Capture) : Stage → Option (Stage × Capture)
  | disarming => some (lowering, capture.disarm)
  | lowering =>
    if sees.driven then some (pulsing (sees.now + startPulse), capture)
    else some (finished (.error .notReady), capture)
  | pulsing due => if due ≤ sees.now then some (raising, capture) else none
  | raising =>
    if sees.driven then some (clearing, capture)
    else some (finished (.error .notReady), capture)
  | clearing => some (arming, capture.clearDone)
  | arming => some (listening, capture.start sees.stamp)
  | listening => some (waiting (sees.now + readTimeout), capture)
  | waiting due =>
    match capture.takeDone with
    | (true, lowered) => some (unlistening true, lowered)
    | (false, lowered) => if due ≤ sees.now then some (unlistening false, lowered) else none
  | unlistening complete => some (collecting complete, capture)
  | collecting complete =>
    some (finished (if complete then capture.frame.decode else .error .timeout), capture.disarm)
  | finished _ => none

end Stage

end WeatherStation.Sensor
