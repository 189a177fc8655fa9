/-!
# `WeatherStation.Mqtt.Packet`: the packets of MQTT 3.1.1

A packet as it is meant, apart from its bytes. `Mqtt.Encoding` and `Mqtt.Decoding` relate
the two.
-/

set_option autoImplicit false

namespace WeatherStation.Mqtt

/-- Topics that one SUBSCRIBE can carry. -/
def maxSubscribeTopics : Nat := 5

/-- Quality of service: how often a message may arrive. -/
inductive QoS where
  | atMostOnce
  | atLeastOnce
  | exactlyOnce
  deriving DecidableEq, Repr, Inhabited

/-- The quality of a message, with the packet id that the two higher ones need. -/
inductive Delivery where
  | atMostOnce
  | atLeastOnce (id : UInt16)
  | exactlyOnce (id : UInt16)
  deriving DecidableEq, Repr, Inhabited

/-- The opening packet of a session. -/
structure Connect where
  /-- Seconds of silence after which the broker gives the session up. -/
  keepAlive : UInt16
  clientId : String
  cleanSession : Bool
  deriving DecidableEq, Repr, Inhabited

/-- A message on its way. -/
structure Publish where
  duplicate : Bool
  delivery : Delivery
  retain : Bool
  topic : String
  payload : List UInt8
  deriving DecidableEq, Repr, Inhabited

/-- A packet. Every packet id is a number from 1 to 65535. -/
inductive Packet where
  | connect (connect : Connect)
  /-- A code other than zero is a refusal. -/
  | connack (sessionPresent : Bool) (code : UInt8)
  | publish (message : Publish)
  | puback (id : UInt16)
  | pubrec (id : UInt16)
  | pubrel (id : UInt16)
  | pubcomp (id : UInt16)
  | subscribe (id : UInt16) (filters : List (String × QoS))
  /-- One code for each filter, `none` where the broker refused it. -/
  | suback (id : UInt16) (codes : List (Option QoS))
  | unsubscribe (id : UInt16) (filters : List String)
  | unsuback (id : UInt16)
  | pingreq
  | pingresp
  | disconnect
  deriving DecidableEq, Repr, Inhabited

/-- The packet id of a message. -/
def Delivery.id? : Delivery → Option UInt16
  | .atMostOnce => none
  | .atLeastOnce id => some id
  | .exactlyOnce id => some id

/-- The packet id, for the packets that have one. -/
def Packet.id? : Packet → Option UInt16
  | .publish message => message.delivery.id?
  | .puback id => some id
  | .pubrec id => some id
  | .pubrel id => some id
  | .pubcomp id => some id
  | .subscribe id _ => some id
  | .suback id _ => some id
  | .unsubscribe id _ => some id
  | .unsuback id => some id
  | _ => none

end WeatherStation.Mqtt
