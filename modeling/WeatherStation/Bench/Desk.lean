import WeatherStation.Bench.Broker
import WeatherStation.Bench.SensorLine
import WeatherStation.Station.Basic

/-!
# `WeatherStation.Bench.Desk`: the station between a sensor and a recorder

On the desk the station runs without a session. Its sensor gives readings from a list or is
a scripted line, and its publisher records every message and answers from a list.
-/

set_option autoImplicit false

namespace WeatherStation.Bench

open Mqtt Sensor

/-- Where the readings come from. -/
inductive SensorSource where
  /-- Read by read, the last one again and again; without any, every read times out. -/
  | listed (answers : List (Except ReadError Reading))
  | line (rig : Rig)

/-- A line on which only the edges that come at once are reported: nobody else has a turn while
the station waits on the desk. -/
def promptLine (rig : Rig) : SensorSource :=
  .line { rig with
    transmissions := rig.transmissions.map fun t =>
      if t.delay = 0 then t else { t with intervals := [] } }

/-- What the station is connected to. -/
structure Desk where
  sensor : SensorSource
  /-- Results of the publishes to come, the last one again and again; without any, all
  succeed. -/
  answers : List (Except PublishError Unit) := []
  /-- What was handed to the publisher, topic and text, latest first. -/
  sent : List (String × String) := []

namespace Desk

/-- Read the sensor. -/
def read : StateM Desk (Except ReadError Reading) := fun d =>
  match d.sensor with
  | .listed answers =>
    let (reading, answers) := takeAnswer answers
    (reading.getD (.error .timeout), { d with sensor := .listed answers })
  | .line rig =>
    let (reading, rig) := rig.read
    (reading, { d with sensor := .line rig })

/-- Record a message and answer for it. -/
def publish : Station.Publisher (StateM Desk) := fun topic text d =>
  let (answer, answers) := takeAnswer d.answers
  (answer.getD (.ok ()), { d with answers, sent := (topic, text) :: d.sent })

/-- One round of the station on the desk. -/
def tick (d : Desk) (s : Station) (now : Nat) : Outcome × Station × Desk :=
  let ((outcome, s), d) := (s.tick read publish now).run d
  (outcome, s, d)

/-- Rounds at regular times, from one on, and their outcomes. -/
def ticks (every : Nat) : Nat → Desk → Station → Nat → List Outcome × Station × Desk
  | 0, d, s, _ => ([], s, d)
  | count + 1, d, s, now =>
    let (outcome, s, d) := d.tick s now
    let (outcomes, s, d) := ticks every count d s (now + every)
    (outcome :: outcomes, s, d)

/-- Equal answers in a row, counted. -/
def runLengths {α : Type} [BEq α] (answers : List α) : List (Nat × α) :=
  answers.foldr
    (fun a runs =>
      match runs with
      | (count, last) :: rest => if last == a then (count + 1, a) :: rest else (1, a) :: runs
      | [] => [(1, a)])
    []

/-- Register the station on the desk. -/
def authorize (d : Desk) (s : Station) : Except PublishError Unit × Desk :=
  (s.authorize publish).run d

end Desk

end WeatherStation.Bench
