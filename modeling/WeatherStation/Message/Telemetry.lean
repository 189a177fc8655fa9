import WeatherStation.Aggregation
import WeatherStation.Decimal.Tenths
import WeatherStation.Json

/-!
# `WeatherStation.Message.Telemetry`: the message that closes a publish period

The message carries the station's id, the start of the period and the statistics of both
channels. Statistics travel as texts with one decimal. The names of the fields and their
order belong to the format.
-/

set_option autoImplicit false

namespace WeatherStation.Message

open Aggregation (Summary)

/-- Statistics of one channel. -/
structure ChannelStats where
  average : Tenths
  /-- The first sample of the period. -/
  actual : Tenths
  min : Tenths
  max : Tenths
  minTime : UInt32
  maxTime : UInt32
  deriving DecidableEq, Repr

/-- The statistics to send of a summary. -/
def ChannelStats.ofSummary (s : Summary) : ChannelStats :=
  ⟨⟨s.average⟩, ⟨s.firstValue⟩, ⟨s.min⟩, ⟨s.max⟩, s.minTime, s.maxTime⟩

/-- The telemetry message. -/
structure Telemetry where
  uid : String
  /-- Start of the publish period. -/
  time : UInt32
  temperature : ChannelStats
  humidity : ChannelStats
  deriving DecidableEq, Repr

/-- The message of two summaries. The temperature's tells the start of the period. -/
def Telemetry.ofSummaries (uid : String) (temperature humidity : Summary) : Telemetry :=
  ⟨uid, temperature.firstTime, .ofSummary temperature, .ofSummary humidity⟩

/-- Statistics as a document. -/
def ChannelStats.toJson (s : ChannelStats) : Json.Value :=
  .ofFields
    [("f_avg", .text s.average.toText), ("f_act", .text s.actual.toText),
      ("f_min", .text s.min.toText), ("f_max", .text s.max.toText),
      ("i_min_ts", .integer s.minTime.toNat), ("i_max_ts", .integer s.maxTime.toNat)]

/-- The message as a document. -/
def Telemetry.toJson (t : Telemetry) : Json.Value :=
  .ofFields
    [("UID", .text t.uid), ("TS", .integer t.time.toNat),
      ("SERIE", .ofFields
        [("Temperature", t.temperature.toJson), ("Humidity", t.humidity.toJson)])]

end WeatherStation.Message
