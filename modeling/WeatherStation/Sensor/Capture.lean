import WeatherStation.Sensor.Frame

/-!
# `WeatherStation.Sensor.Capture`: the hand-off between edge interrupt and reader

The interrupt side only reports falling edges (`Capture.fallingEdge`). The reader clears
the completion signal, starts the capture, waits for the signal and stops the capture
again. Each function here is one step that no other step can interrupt; `Capture.arm` is
two of them in a row.

Times are readings of a 32-bit microsecond clock, which wraps about every 71 minutes.
Only differences of them are used, taken modulo 2^32.
-/

set_option autoImplicit false

namespace WeatherStation.Sensor

/-- An interval longer than this ends the preamble (80 µs low and 80 µs high). -/
def preambleMin : UInt32 := 100

/-- An interval of at least this length is a one, a shorter one is a zero. -/
def bitOneMin : UInt32 := 110

/-- The state shared by the interrupt and the reader. -/
structure Capture where
  frame : Frame
  /-- Clock reading at the last edge, or at the start of the capture. -/
  lastEdge : UInt32
  /-- Whether edges are accepted. -/
  armed : Bool
  /-- The completion signal: raised by the last edge, lowered by the reader. -/
  done : Bool
  deriving DecidableEq, Repr, Inhabited

namespace Capture

/-- A capture that has not been used. -/
def idle : Capture := ⟨.empty, 0, false, false⟩

/-- Lower the completion signal. -/
def clearDone (c : Capture) : Capture := { c with done := false }

/-- Start an empty frame and time its first edge from `now`. -/
def start (c : Capture) (now : UInt32) : Capture := ⟨.empty, now, true, c.done⟩

/-- Lower the signal, then start from `now`. -/
def arm (c : Capture) (now : UInt32) : Capture := c.clearDone.start now

/-- The frame after an edge that comes `elapsed` microseconds after the last. The first edge
of the preamble is sometimes missed; either way the preamble ends with the first long
interval. -/
def extend (f : Frame) (elapsed : UInt32) : Frame :=
  if f.edges < preambleEdges then
    ⟨f.bits, if preambleMin < elapsed then preambleEdges else f.edges, elapsed⟩
  else
    ⟨f.bits <<< 1 ||| (if bitOneMin ≤ elapsed then 1 else 0), f.edges + 1, elapsed⟩

/-- A falling edge at `now`. It counts only while the capture is armed and the frame is not
complete, and the edge that completes the frame raises the signal. -/
def fallingEdge (c : Capture) (now : UInt32) : Capture :=
  if !c.armed || expectedEdges ≤ c.frame.edges then c
  else
    let frame := extend c.frame (now - c.lastEdge)
    ⟨frame, now, true, c.done || frame.isComplete⟩

/-- Whether the signal is raised; taking it lowers it. -/
def takeDone (c : Capture) : Bool × Capture := (c.done, c.clearDone)

/-- Accept no more edges. The frame stays to be read. -/
def disarm (c : Capture) : Capture := { c with armed := false }

end Capture

end WeatherStation.Sensor
