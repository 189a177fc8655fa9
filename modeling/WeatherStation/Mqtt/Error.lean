/-!
# `WeatherStation.Mqtt.Error`: what can go wrong between station and broker

Three kinds of failure: of the byte stream or of one packet, of opening a session, and
of one publish. Each has its wording here.
-/

set_option autoImplicit false

namespace WeatherStation.Mqtt

/-- Why bytes are no packet. -/
inductive PacketError where
  /-- More bytes are needed. -/
  | incomplete
  /-- The length field goes on after its fourth byte. -/
  | invalidLength
  /-- The bytes of the packet are not well formed. -/
  | codec
  deriving DecidableEq, Repr, Inhabited

/-- Why a session could not be opened. -/
inductive ConnectError where
  /-- The broker's name has no address. -/
  | dnsFailure
  /-- The connection could not be opened, or it broke. -/
  | transportFailure
  /-- An expected answer did not come in time. -/
  | ackTimeout
  /-- The broker answered with this code. -/
  | refused (code : UInt8)
  deriving DecidableEq, Repr, Inhabited

/-- Why a publish was not confirmed. -/
inductive PublishError where
  /-- No session is open. -/
  | notConnected
  /-- The broker's acknowledgement did not come in time. -/
  | ackTimeout
  /-- The topic or the payload is too long. -/
  | encodeOverflow
  deriving DecidableEq, Repr, Inhabited

namespace PacketError

/-- The errors, in the order they are declared. -/
def all : List PacketError := [incomplete, invalidLength, codec]

/-- The error in words. -/
def message : PacketError → String
  | incomplete => "incomplete packet"
  | invalidLength => "invalid remaining length"
  | codec => "packet rejected by the codec"

end PacketError

namespace ConnectError

/-- The error in words. -/
def message : ConnectError → String
  | dnsFailure => "unable to resolve broker address"
  | transportFailure => "broker transport failure"
  | ackTimeout => "broker acknowledgement timed out"
  | refused code => s!"broker refused connection, code {code.toNat}"

end ConnectError

namespace PublishError

/-- The errors, in the order they are declared. -/
def all : List PublishError := [notConnected, ackTimeout, encodeOverflow]

/-- The error in words. -/
def message : PublishError → String
  | notConnected => "client not connected"
  | ackTimeout => "publish ack timeout"
  | encodeOverflow => "publish does not fit the outbound buffer"

end PublishError

end WeatherStation.Mqtt
