import WeatherStation.Mqtt.Packet
import WeatherStation.Mqtt.RemainingLength

/-!
# `WeatherStation.Mqtt.Encoding`: a packet as bytes

A packet is a header byte, the length of its body and the body. The high half of the header
byte is the packet type, the low half holds flags. Numbers are written high byte first, and
a text is written as UTF-8 behind its length in two bytes.

`Packet.encode` writes any packet. `Packet.encodeWithin` refuses a packet that does not fit
the outbound buffer, and one whose packet id is zero.
-/

set_option autoImplicit false

namespace WeatherStation.Mqtt

/-- The UTF-8 bytes of a text. -/
def utf8 (text : String) : List UInt8 := text.toUTF8.data.toList

namespace Encoding

/-- Sixteen bits, high byte first. -/
def word (n : UInt16) : List UInt8 := [(n >>> 8).toUInt8, n.toUInt8]

/-- Bytes behind their number. -/
def field (bytes : List UInt8) : List UInt8 := word (UInt16.ofNat bytes.length) ++ bytes

/-- A text behind the number of its bytes. -/
def text (s : String) : List UInt8 := field (utf8 s)

/-- The number of a quality of service. -/
def qos : QoS → UInt8
  | .atMostOnce => 0
  | .atLeastOnce => 1
  | .exactlyOnce => 2

/-- The number of a message's quality of service. -/
def deliveryQoS : Delivery → UInt8
  | .atMostOnce => 0
  | .atLeastOnce _ => 1
  | .exactlyOnce _ => 2

/-- One bit of a flag byte. -/
def flag (set : Bool) (bit : UInt8) : UInt8 := if set then bit else 0

/-- A return code of SUBACK. -/
def returnCode : Option QoS → UInt8
  | some granted => qos granted
  | none => 0x80

/-- The header byte. -/
def header : Packet → UInt8
  | .connect _ => 0x10
  | .connack _ _ => 0x20
  | .publish m =>
    (0x30 : UInt8) ||| flag m.duplicate 0x08 ||| deliveryQoS m.delivery <<< 1 ||| flag m.retain 0x01
  | .puback _ => 0x40
  | .pubrec _ => 0x50
  | .pubrel _ => 0x62
  | .pubcomp _ => 0x70
  | .subscribe _ _ => 0x82
  | .suback _ _ => 0x90
  | .unsubscribe _ _ => 0xA2
  | .unsuback _ => 0xB0
  | .pingreq => 0xC0
  | .pingresp => 0xD0
  | .disconnect => 0xE0

/-- What follows the length field. -/
def body : Packet → List UInt8
  | .connect c =>
    text "MQTT" ++ [4, flag c.cleanSession 0x02] ++ word c.keepAlive ++ text c.clientId
  | .connack sessionPresent code => [flag sessionPresent 0x01, code]
  | .publish m => text m.topic ++ (m.delivery.id?.map word).getD [] ++ m.payload
  | .puback id => word id
  | .pubrec id => word id
  | .pubrel id => word id
  | .pubcomp id => word id
  | .subscribe id filters => word id ++ filters.flatMap fun f => text f.1 ++ [qos f.2]
  | .suback id codes => word id ++ codes.map returnCode
  | .unsubscribe id filters => word id ++ filters.flatMap text
  | .unsuback id => word id
  | .pingreq => []
  | .pingresp => []
  | .disconnect => []

end Encoding

/-- The bytes of a packet. -/
def Packet.encode (p : Packet) : List UInt8 :=
  let body := Encoding.body p
  Encoding.header p :: RemainingLength.encode body.length ++ body

/-- The bytes of a packet if it fits a buffer of `capacity` bytes and its id is not zero. -/
def Packet.encodeWithin (capacity : Nat) (p : Packet) : Option (List UInt8) :=
  if p.id? = some 0 then none
  else if p.encode.length ≤ capacity then some p.encode
  else none

end WeatherStation.Mqtt
