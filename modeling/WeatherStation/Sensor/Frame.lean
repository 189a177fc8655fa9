import WeatherStation.Sensor.Reading

/-!
# `WeatherStation.Sensor.Frame`: the forty bits of a sample

The sensor sends five octets: the humidity and the temperature, high octet first, and a
checksum. The temperature is a sign bit and a magnitude. The checksum is the low octet of
the sum of the other four, and a checksum of zero is taken for noise.

`Frame` is what the edge capture has accumulated; it is complete after two preamble edges
and forty data edges. `Frame.decode` gives the reading of a complete frame.
-/

set_option autoImplicit false

namespace WeatherStation.Sensor

/-- Falling edges of the preamble, which carry no data. -/
def preambleEdges : UInt32 := 2

/-- Data bits of one frame, the checksum's included. -/
def dataBits : UInt32 := 40

/-- Falling edges of a complete frame. -/
def expectedEdges : UInt32 := preambleEdges + dataBits

/-- The five octets of a frame, in the order they are sent. -/
structure Octets where
  humidityHigh : UInt8
  humidityLow : UInt8
  temperatureHigh : UInt8
  temperatureLow : UInt8
  checksum : UInt8
  deriving DecidableEq, Repr, Inhabited

namespace Octets

/-- The octets as a list. -/
def toList (o : Octets) : List UInt8 :=
  [o.humidityHigh, o.humidityLow, o.temperatureHigh, o.temperatureLow, o.checksum]

/-- The low octet of the sum of the four data octets. -/
def dataSum (o : Octets) : UInt8 :=
  o.humidityHigh + o.humidityLow + o.temperatureHigh + o.temperatureLow

end Octets

/-- What has been captured of one transmission. -/
structure Frame where
  /-- Data bits, first bit highest, so the checksum is the low octet. -/
  bits : UInt64
  /-- Falling edges counted so far, preamble included. -/
  edges : UInt32
  /-- Microseconds between the last two edges, kept for diagnosis. -/
  lastInterval : UInt32
  deriving DecidableEq, Repr, Inhabited

namespace Frame

/-- The frame before any edge. -/
def empty : Frame := ⟨0, 0, 0⟩

/-- The complete frame of five octets. -/
def ofOctets (o : Octets) : Frame :=
  ⟨o.toList.foldl (fun bits octet => bits <<< 8 ||| octet.toUInt64) 0, expectedEdges, 0⟩

/-- Whether all edges have been counted. -/
def isComplete (f : Frame) : Bool := f.edges == expectedEdges

/-- The low forty bits as octets. -/
def octets (f : Frame) : Octets where
  humidityHigh := (f.bits >>> 32).toUInt8
  humidityLow := (f.bits >>> 24).toUInt8
  temperatureHigh := (f.bits >>> 16).toUInt8
  temperatureLow := (f.bits >>> 8).toUInt8
  checksum := f.bits.toUInt8

/-- Whether the checksum is not zero and matches the data. -/
def checksumValid (f : Frame) : Bool :=
  f.octets.checksum != 0 && f.octets.dataSum == f.octets.checksum

/-- The temperature of a sixteen-bit field: a sign bit above a magnitude. -/
def signedMagnitude (field : UInt16) : Int16 :=
  let magnitude := (field &&& 0x7FFF).toInt16
  if field &&& 0x8000 = 0 then magnitude else -magnitude

/-- The reading of a frame. An incomplete frame is a timeout, whatever its bits are. -/
def decode (f : Frame) : Except ReadError Reading :=
  if !f.isComplete then .error .timeout
  else if !f.checksumValid then .error .checksumInvalid
  else .ok ⟨signedMagnitude (f.bits >>> 8).toUInt16, (f.bits >>> 24).toUInt16⟩

end Frame

end WeatherStation.Sensor
