import WeatherStation.Mqtt.Decoding
import WeatherStation.Mqtt.Error

/-!
# `WeatherStation.Mqtt.Message`: messages handed between tasks

A `Request` is a message on its way out, made by the publishing task and taken by the
session. A `Message` is one that came in on a subscribed topic and waits to be dispatched.
Both have bounded topics and payloads, and each value carries the proof that it keeps its
bounds.
-/

set_option autoImplicit false

namespace WeatherStation.Mqtt

/-- Longest topic of a request or a message, in bytes. -/
def maxTopicLength : Nat := 128

/-- Longest payload of a message that came in. -/
def maxPayloadLength : Nat := 256

/-- Longest payload of a request. -/
def maxPublishLength : Nat := 512

/-- A message to be published with quality of service 1. -/
structure Request where
  topic : String
  payload : List UInt8
  id : UInt16
  retain : Bool
  topic_le : topic.utf8ByteSize ≤ maxTopicLength
  payload_le : payload.length ≤ maxPublishLength
  deriving DecidableEq, Repr

/-- A request for the broker to keep, unless topic or payload is too long. -/
def Request.new? (topic : String) (payload : List UInt8) (id : UInt16) :
    Except PublishError Request :=
  if h : topic.utf8ByteSize ≤ maxTopicLength ∧ payload.length ≤ maxPublishLength then
    .ok ⟨topic, payload, id, true, h.1, h.2⟩
  else .error .encodeOverflow

/-- The packet of a request. -/
def Request.packet (r : Request) : Packet :=
  .publish ⟨false, .atLeastOnce r.id, r.retain, r.topic, r.payload⟩

/-- A message that came in. -/
structure Message where
  topic : String
  payload : List UInt8
  topic_le : topic.utf8ByteSize ≤ maxTopicLength
  payload_le : payload.length ≤ maxPayloadLength
  deriving DecidableEq, Repr

namespace Message

/-- A message, unless topic or payload is too long. -/
def new? (topic : String) (payload : List UInt8) : Option Message :=
  if h : topic.utf8ByteSize ≤ maxTopicLength ∧ payload.length ≤ maxPayloadLength then
    some ⟨topic, payload, h.1, h.2⟩
  else none

/-- The payload as a text, if it is one. -/
def text? (m : Message) : Option String := utf8Text? m.payload

/-- The line logged for a message: its text, or the number of its bytes. -/
def logLine (m : Message) : String :=
  match m.text? with
  | some text => s!"[MQTT] {m.topic}: {text}"
  | none => s!"[MQTT] {m.topic}: {m.payload.length} bytes"

end Message

end WeatherStation.Mqtt
