import WeatherStation.Sensor.Pin

/-!
# `WeatherStation.Bench.SensorLine`: a sensor that follows a script

Each time the reader listens, the scripted sensor sends its next transmission: falling edges
at given intervals. `Rig` runs the stages of a read against it. There are two kinds of
rig. With a fixed edge clock the edges of a transmission are reported together, and only
their time stamps tell them apart. With the uptime as edge clock each edge is an interrupt at
its own time, and interrupts without a flag may come in between.

Edges that are due come before the reader goes on. Once the reader has stopped listening,
no more edges come.
-/

set_option autoImplicit false

namespace WeatherStation.Bench

open Sensor

/-- Intervals of a healthy transmission: the preamble, with or without its first edge, then
the bits of the octets, highest first. -/
def healthyIntervals (octets : List UInt8) (firstEdge : Bool) : List Nat :=
  (if firstEdge then [30, 160] else [190]) ++ octets.flatMap fun octet =>
    (List.range 8).map fun i => if octet.toNat / Nat.pow 2 (7 - i) % 2 = 1 then 120 else 78

/-- The sums of a list from a start on. -/
def runningSums (start : Nat) : List Nat → List Nat
  | [] => []
  | n :: rest => (start + n) :: runningSums (start + n) rest

/-- Report edges one after the other, each an interval after the one before; the time of the
last is returned. -/
def reportEdges (capture : Capture) (start : UInt32) (intervals : List Nat) : UInt32 × Capture :=
  intervals.foldl
    (fun (time, capture) n =>
      let time := time + UInt32.ofNat n
      (time, capture.fallingEdge time))
    (start, capture)

/-- What the sensor sends when the reader listens. -/
structure Transmission where
  intervals : List Nat
  /-- Time before the first interval. -/
  delay : Micros := 0
  /-- Times after the start of listening of interrupts without a flag. -/
  spurious : List Micros := []
  deriving DecidableEq, Repr

/-- The clock that stamps the edges. -/
inductive EdgeClock where
  | fixed (now : UInt32)
  | uptime
  deriving DecidableEq, Repr

/-- An interrupt to come. -/
structure Arrival where
  due : Micros
  stamp : UInt32
  /-- Whether the pin's flag is set. -/
  flagged : Bool
  deriving DecidableEq, Repr

/-- Two lists of arrivals in one, by time; at the same time the first list comes first. -/
def mergeArrivals : List Arrival → List Arrival → List Arrival
  | [], bs => bs
  | as, [] => as
  | a :: as, b :: bs =>
    if a.due ≤ b.due then a :: mergeArrivals as (b :: bs) else b :: mergeArrivals (a :: as) bs

/-- The arrivals of a transmission when listening starts at `now`. -/
def Transmission.arrivals (t : Transmission) (clock : EdgeClock) (now : Micros) : List Arrival :=
  match clock with
  | .fixed stamp =>
    (runningSums 0 t.intervals).map fun n =>
      ⟨now + t.delay, stamp + UInt32.ofNat n, true⟩
  | .uptime =>
    let edges := (runningSums (now + t.delay) t.intervals).map fun due =>
      Arrival.mk due (edgeClock due) true
    let spurious := (t.spurious.mergeSort (· ≤ ·)).map fun n =>
      Arrival.mk (now + n) (edgeClock (now + n)) false
    mergeArrivals spurious edges

/-- Reader, line and scripted sensor. -/
structure Rig where
  now : Micros := 0
  clock : EdgeClock
  capture : Capture := .idle
  /-- Transmissions to come. -/
  transmissions : List Transmission := []
  /-- Numbers of the calls to pull the line low that fail, counted from zero. -/
  lowFailures : List Nat := []
  lows : Nat := 0
  /-- Numbers of the calls to release the line that fail, counted from zero. -/
  highFailures : List Nat := []
  highs : Nat := 0
  /-- Interrupts to come while the reader listens. -/
  arrivals : List Arrival := []
  /-- The calls to the line, latest first, with their times. -/
  calls : List (LineCall × Micros) := []
  /-- How often the pin's flag was cleared. -/
  clears : Nat := 0

namespace Rig

/-- How often pin operations clear the flag. -/
def countClears (calls : List PinCall) : Nat := calls.count .clearInterrupt

/-- Report the interrupts that are due. -/
def deliver (r : Rig) : Rig :=
  let due := r.arrivals.takeWhile (·.due ≤ r.now)
  due.foldl
    (fun r a =>
      let (calls, capture) := handleInterrupt r.capture a.stamp a.flagged
      { r with capture, clears := r.clears + countClears calls })
    { r with arrivals := r.arrivals.dropWhile (·.due ≤ r.now) }

/-- Perform a call to the line: whether it succeeded. -/
def perform (r : Rig) (call : LineCall) : Bool × Rig :=
  let r := { r with
    calls := (call, r.now) :: r.calls, clears := r.clears + countClears call.pinCalls }
  match call with
  | .low => (!r.lowFailures.contains r.lows, { r with lows := r.lows + 1 })
  | .high => (!r.highFailures.contains r.highs, { r with highs := r.highs + 1 })
  | .listen =>
    match r.transmissions with
    | [] => (true, { r with arrivals := [] })
    | t :: rest =>
      (true, { r with transmissions := rest, arrivals := t.arrivals r.clock r.now })
  | .unlisten => (true, { r with arrivals := [] })

/-- The reading of the edge clock. -/
def stamp (r : Rig) : UInt32 :=
  match r.clock with
  | .fixed stamp => stamp
  | .uptime => edgeClock r.now

/-- Park the line: the reader exists only if this succeeds. -/
def park (r : Rig) : Except ReadError Unit × Rig :=
  match r.perform .high with
  | (true, r) => (.ok (), r)
  | (false, r) => (.error .notReady, r)

/-- The stages of a read from one on. A stage that waits is asked again at the next time at
which something happens. -/
def runFrom : Nat → Stage → Rig → Except ReadError Reading × Rig
  | 0, _, r => (.error .timeout, r)
  | fuel + 1, stage, r =>
    let r := r.deliver
    let (driven, r) :=
      match stage.call? with
      | some call => r.perform call
      | none => (true, r)
    match stage.next ⟨r.now, r.stamp, driven⟩ r.capture with
    | some (.finished result, capture) => (result, { r with capture })
    | some (stage, capture) => runFrom fuel stage { r with capture }
    | none =>
      match ([stage.due?, r.arrivals.head?.map (·.due)].filterMap id).min? with
      | some next => runFrom fuel stage { r with now := max r.now next }
      | none => (.error .timeout, r)

/-- One read. Every turn ends a stage or waits for an interrupt, which bounds their number. -/
def read (r : Rig) : Except ReadError Reading × Rig :=
  let interrupts :=
    match r.transmissions with
    | [] => 0
    | t :: _ => t.intervals.length + t.spurious.length
  runFrom (interrupts + 16) .disarming r

/-- Forget the calls so far. -/
def fresh (r : Rig) : Rig := { r with calls := [], clears := 0 }

/-- Reads one after the other: the result of each and the rig after it, with the calls that
belong to it. -/
def reads : Nat → Rig → List (Except ReadError Reading × Rig)
  | 0, _ => []
  | count + 1, r =>
    let (result, r) := r.read
    (result, r) :: reads count r.fresh

end Rig

end WeatherStation.Bench
