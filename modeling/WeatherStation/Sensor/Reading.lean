/-!
# `WeatherStation.Sensor.Reading`: what a read of the sensor gives

A successful read gives a temperature and a relative humidity, both in tenths. A read
can fail in three ways, told apart by `ReadError`.
-/

set_option autoImplicit false

namespace WeatherStation.Sensor

/-- One sample of both channels. -/
structure Reading where
  /-- Tenths of a degree Celsius. -/
  temperature : Int16
  /-- Tenths of a percent of relative humidity. -/
  humidity : UInt16
  deriving DecidableEq, Repr, Inhabited

/-- Why a read gave no sample. -/
inductive ReadError where
  /-- The data line could not be driven. -/
  | notReady
  /-- Too few edges arrived inside the read window. -/
  | timeout
  /-- The checksum does not match the data, or is zero. -/
  | checksumInvalid
  deriving DecidableEq, Repr, Inhabited

namespace ReadError

/-- The errors, in the order they are declared. -/
def all : List ReadError := [notReady, timeout, checksumInvalid]

/-- The error in words. -/
def message : ReadError → String
  | notReady => "sensor line not ready"
  | timeout => "sensor frame timed out"
  | checksumInvalid => "sensor frame checksum invalid"

/-- Whether the next read has a chance of success: only a dead line has none. -/
def isRetryable : ReadError → Bool
  | notReady => false
  | timeout => true
  | checksumInvalid => true

end ReadError

end WeatherStation.Sensor
