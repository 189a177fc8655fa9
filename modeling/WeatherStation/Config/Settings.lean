import WeatherStation.Config.Store
import WeatherStation.Decimal.Reading
import WeatherStation.Text.Blank
import WeatherStation.Text.Hex
import WeatherStation.Time

/-!
# `WeatherStation.Config.Settings`: the settings the station runs with

`Settings.load` reads every setting from a store. A setting that is missing, has the wrong
type or is out of range takes its default, so that loading never fails and each setting
depends on its own key alone. Some defaults are fixed and some are put in by the build
(`Built`). The latter are texts of any length and content: `cut` shortens them to what a store
could hold, and a port or a coordinate that cannot be read has a fixed default behind it.
-/

set_option autoImplicit false

namespace WeatherStation.Config

/-! ### Defaults -/

/-- Topic of the registration message. -/
def authTopic : String := "/testauth"

/-- Topic of the telemetry messages. -/
def telemetryTopic : String := "/testsamples"

/-- The texts that the build puts in place of settings that are not stored. The build looks at none
of them, so it is the station that reads the numbers among them. -/
structure Built where
  wifiSsid : String
  /-- The empty one stands for an open network. -/
  wifiPassword : String
  brokerHost : String
  /-- A port, unless it is no number of sixteen bits. -/
  brokerPort : String
  stationName : String
  timezone : String
  /-- Degrees, as a text like the stored one. -/
  latitude : String
  /-- Degrees, as a text like the stored one. -/
  longitude : String
  deriving DecidableEq, Repr

/-- The texts of a build that nothing else is asked of. There is no network to join. -/
def Built.plain : Built where
  wifiSsid := ""
  wifiPassword := ""
  brokerHost := "localhost"
  brokerPort := "1883"
  stationName := "Station Name"
  timezone := "Europe/Warsaw"
  latitude := "40"
  longitude := "30"

namespace Default

/-- Port of the broker where the build names none, the one registered for MQTT without
encryption. -/
def brokerPort : UInt16 := 1883

/-- Description the station registers with: its kind of sensor. -/
def description : String := "DHT22"

/-- Seconds between two pings of the broker. -/
def pingIntervalSecs : UInt32 := 60

/-- Minutes the broker may be silent before the station restarts. -/
def maxSilenceMins : UInt32 := 120

/-- Minutes between two telemetry messages. -/
def publishPeriodMins : UInt32 := 10

/-- Seconds between two readings of the sensor. -/
def measurePeriodSecs : UInt32 := 4

end Default

/-- The characters from the front of a text, up to the first for which so many bytes are too few. -/
def fitting (room : Nat) : List Char → List Char
  | [] => []
  | c :: rest => if c.utf8Size ≤ room then c :: fitting (room - c.utf8Size) rest else []

/-- A text cut to the length that a stored one may have. -/
def cut (text : String) : String := String.ofList (fitting maxValueLength text.toList)

/-- A text without the plus that it may start with. -/
def withoutPlus : List Char → List Char
  | '+' :: rest => rest
  | text => text

/-- The number of sixteen bits that a text writes: digits, with or without a plus in front, and no
blanks. -/
def portText? (text : String) : Option UInt16 :=
  let digits := withoutPlus text.toList
  if digits.isEmpty || digits.any (fun c => !c.isDigit) then none
  else if Decimal.digitsValue digits < 65536 then
    some (UInt16.ofNat (Decimal.digitsValue digits))
  else none

/-- The port that the build names. -/
def Built.port (b : Built) : UInt16 := (portText? b.brokerPort).getD Default.brokerPort

/-! ### Settings -/

/-- The settings. -/
structure Settings where
  wifiSsid : String
  wifiPassword : String
  brokerHost : String
  brokerPort : UInt16
  pingIntervalSecs : UInt32
  maxSilenceMins : UInt32
  deviceId : String
  stationName : String
  description : String
  timezone : String
  latitude : Binary32
  longitude : Binary32
  /-- A divisor of 60. -/
  publishPeriodMins : UInt32
  measurePeriodSecs : UInt32
  deriving DecidableEq, Repr

/-- A port number, unless it has more than sixteen bits. -/
def portOr (fallback : UInt16) (n : UInt32) : UInt16 :=
  if n.toNat < 65536 then n.toUInt16 else fallback

/-- A publish period, unless it does not divide the hour. -/
def periodOr (fallback n : UInt32) : UInt32 := if n = 0 ∨ 60 % n ≠ 0 then fallback else n

/-- At least one. -/
def atLeastOne (n : UInt32) : UInt32 := if n = 0 then 1 else n

/-- The number that a text with blanks around it stands for. -/
def coordinate? (text : String) : Option Binary32 := Decimal.read? (Text.trim text.toList)

/-- A coordinate; a text that is no number gives way to the default, and that to zero. -/
def coordinateOr (fallback text : String) : Binary32 :=
  (coordinate? text <|> coordinate? fallback).getD ⟨0⟩

namespace Settings

variable {σ : Type}

/-- The text of a key, or a default, cut to the length of a stored text. -/
def textOr (a : Access σ) (store : σ) (key : Key) (fallback : String) : String :=
  match a.getText store key with
  | .ok value => value
  | .error _ => cut fallback

/-- The number of a key, or a default. -/
def numberOr (a : Access σ) (store : σ) (key : Key) (fallback : UInt32) : UInt32 :=
  match a.getNumber store key with
  | .ok value => value
  | .error _ => fallback

/-- Read every setting. The default of a coordinate is read without the cut. -/
def load (built : Built) (a : Access σ) (store : σ) : Settings where
  wifiSsid := textOr a store .wifiSsid built.wifiSsid
  wifiPassword := textOr a store .wifiPassword built.wifiPassword
  brokerHost := textOr a store .brokerHost built.brokerHost
  brokerPort := portOr built.port (numberOr a store .brokerPort built.port.toUInt32)
  pingIntervalSecs :=
    atLeastOne (numberOr a store .pingIntervalSecs Default.pingIntervalSecs)
  maxSilenceMins := numberOr a store .maxSilenceMins Default.maxSilenceMins
  deviceId := textOr a store .deviceId ""
  stationName := textOr a store .stationName built.stationName
  description := textOr a store .description Default.description
  timezone := textOr a store .timezone built.timezone
  latitude := coordinateOr built.latitude (textOr a store .latitude built.latitude)
  longitude := coordinateOr built.longitude (textOr a store .longitude built.longitude)
  publishPeriodMins := periodOr Default.publishPeriodMins
    (numberOr a store .publishPeriodMins Default.publishPeriodMins)
  measurePeriodSecs :=
    atLeastOne (numberOr a store .measurePeriodSecs Default.measurePeriodSecs)

/-- The ping interval as a duration. -/
def pingInterval (s : Settings) : Micros := seconds s.pingIntervalSecs.toNat

/-- The longest silence of the broker as a duration. -/
def maxSilence (s : Settings) : Micros := seconds (s.maxSilenceMins.toNat * 60)

end Settings

/-! ### Identity -/

/-- A hardware address as upper-case hex digits, two for each octet. -/
def hardwareId (octets : List UInt8) : String :=
  String.ofList ((Text.Hex.encode octets).map Char.toUpper)

/-- The station's id: the configured one, or else the hardware address. -/
def Settings.stationId (s : Settings) (octets : List UInt8) : String :=
  if s.deviceId.isEmpty then hardwareId octets else s.deviceId

end WeatherStation.Config
