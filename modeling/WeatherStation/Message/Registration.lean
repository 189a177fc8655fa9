import WeatherStation.Json

/-!
# `WeatherStation.Message.Registration`: the message that registers the station

It tells the backend who the station is, where it stands and under which numbers its two
channels are kept.
-/

set_option autoImplicit false

namespace WeatherStation.Message

/-- Number of the temperature channel. -/
def temperatureSerie : UInt8 := 1

/-- Number of the humidity channel. -/
def humiditySerie : UInt8 := 2

/-- The numbers of both channels. -/
structure SerieIds where
  temperature : UInt8 := temperatureSerie
  humidity : UInt8 := humiditySerie
  deriving DecidableEq, Repr

/-- The registration message. -/
structure Registration where
  timezone : String
  longitude : Binary32
  latitude : Binary32
  serie : SerieIds := {}
  name : String
  description : String
  uid : String
  deriving DecidableEq, Repr

/-- The message as a document. -/
def Registration.toJson (r : Registration) : Json.Value :=
  .ofFields
    [("timezone", .text r.timezone), ("longitude", .real r.longitude),
      ("latitude", .real r.latitude),
      ("serie", .ofFields
        [("Temperature", .integer r.serie.temperature.toNat),
          ("Humidity", .integer r.serie.humidity.toNat)]),
      ("name", .text r.name), ("description", .text r.description), ("uid", .text r.uid)]

end WeatherStation.Message
