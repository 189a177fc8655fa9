import WeatherStation.Config.Settings
import WeatherStation.Message.Registration
import WeatherStation.Message.Telemetry
import WeatherStation.Mqtt.Error
import WeatherStation.Sensor.Reading
import WeatherStation.Station.Boundary

/-!
# `WeatherStation.Station.Basic`: one round of the station

A round is a `tick` at a time in seconds since the epoch. It is throttled until the measure
period is over. Otherwise it reads the sensor and commits the reading to both channels.
When a publish period ends, both channels are flushed and their statistics are published.

`isThrottled` and `sample` are the parts of a round before and after the read, and `tick`
puts them together with any sensor and any publisher.
-/

set_option autoImplicit false

namespace WeatherStation

open Aggregation Config Message Mqtt Sensor

/-- Version of the station's program. -/
def version : String := "0.1.0"

/-- Attempts to register before the station resets. -/
def authorizeAttempts : Nat := 8

/-- Seconds allowed for the first session after a boot. -/
def firstConnectWindowSecs : Nat := 30

/-- The result of a round. -/
inductive Outcome where
  /-- The measure period is not over. -/
  | throttled
  | sensorFailed (error : ReadError)
  /-- The reading was offered to both channels; each tells whether it took it. -/
  | sampled (temperature humidity : Bool)
  /-- A publish period ended and its statistics were handed to the publisher. -/
  | published (result : Except PublishError Unit)
  /-- A publish period ended without statistics. -/
  | nothingToPublish

/-- A round after its read: at its end, or with a message to publish. -/
inductive Sampling where
  | ended (outcome : Outcome)
  | due (telemetry : Telemetry)

/-- The station between two rounds. -/
structure Station where
  settings : Settings
  uid : String
  temperature : Buffer
  humidity : Buffer
  boundary : Boundary
  /-- Time of the last round that was not throttled. -/
  lastSample : Option Nat

namespace Station

/-- A station before its first round. -/
def new (settings : Settings) (uid : String) : Station where
  settings := settings
  uid := uid
  temperature := .new settings.publishPeriodMins
  humidity := .new settings.publishPeriodMins
  boundary := .new settings.publishPeriodMins
  lastSample := none

/-- The registration message. -/
def registration (s : Station) : Registration where
  timezone := s.settings.timezone
  longitude := s.settings.longitude
  latitude := s.settings.latitude
  name := s.settings.stationName
  description := s.settings.description
  uid := s.uid

/-- Whether the measure period is not over. A time before the last round counts as the same
time. -/
def isThrottled (s : Station) (now : Nat) : Bool :=
  match s.lastSample with
  | some last => decide (now - last < s.settings.measurePeriodSecs.toNat)
  | none => false

/-- A time as the channels keep it: 32 bits, later ones cut off. -/
def sampleTime (now : Nat) : UInt32 := UInt32.ofNat (min now 0xFFFFFFFF)

/-- End a cycle: empty both channels, and make their statistics into a message. -/
def closeCycle (s : Station) : Sampling × Station :=
  let (temperature, temperatureBuffer) := s.temperature.flush
  let (humidity, humidityBuffer) := s.humidity.flush
  let s := { s with temperature := temperatureBuffer, humidity := humidityBuffer }
  match temperature, humidity with
  | some temperature, some humidity =>
    (.due (.ofSummaries s.uid temperature humidity), s)
  | _, _ => (.ended .nothingToPublish, s)

/-- A round that is not throttled, with what the sensor gave. -/
def sample (s : Station) (now : Nat) (reading : Except ReadError Reading) : Sampling × Station :=
  let s := { s with lastSample := some now }
  match reading with
  | .error e => (.ended (.sensorFailed e), s)
  | .ok reading =>
    let time := sampleTime now
    let (t, temperature) :=
      s.temperature.commit reading.temperature.toInt32 time temperatureThreshold
    let (h, humidity) :=
      s.humidity.commit (Int32.ofNat reading.humidity.toNat) time humidityThreshold
    let (fires, boundary) := s.boundary.check now
    let s := { s with temperature, humidity, boundary }
    if fires then s.closeCycle else (.ended (.sampled t h), s)

/-- A publisher takes a topic and a payload and says whether they arrived. -/
abbrev Publisher (m : Type → Type) := String → String → m (Except PublishError Unit)

/-- Publish the registration message. -/
def authorize {m : Type → Type} (s : Station) (publish : Publisher m) :
    m (Except PublishError Unit) :=
  publish authTopic s.registration.toJson.render

/-- One round at a time. -/
def tick {m : Type → Type} [Monad m] (s : Station) (read : m (Except ReadError Reading))
    (publish : Publisher m) (now : Nat) : m (Outcome × Station) := do
  if s.isThrottled now then
    return (.throttled, s)
  let reading ← read
  match s.sample now reading with
  | (.ended outcome, s) => return (outcome, s)
  | (.due telemetry, s) =>
    let result ← publish telemetryTopic telemetry.toJson.render
    return (.published result, s)

end Station

end WeatherStation
