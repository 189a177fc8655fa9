import WeatherStation.Mqtt.Packet
import WeatherStation.Mqtt.RemainingLength

/-!
# `WeatherStation.Mqtt.Decoding`: the packet that bytes stand for

`Packet.decode` reads one whole packet. The header byte is checked first: the type must be
known, and the low half must be the one the type prescribes; PUBLISH leaves it free except
for a quality of service of 3. Bytes behind the part of the body that is read do not matter.

There are three faults. Texts are read against the length that is left, so a text that is
cut off is refused like any other malformed content (`rejected`). Ids, codes and flags are
read without such a check: where the body ends before one of them the decoder runs over its
end (`overrun`), which the running station does not survive. It does not survive either that a
text is longer than the room the decoder has for it: topic filters, and the name of a protocol
that it is about to refuse as unknown. `incomplete` means that bytes of the packet are missing.
-/

set_option autoImplicit false

namespace WeatherStation.Mqtt

/-- Why bytes were not decoded. -/
inductive Fault where
  /-- The packet is not complete. -/
  | incomplete
  /-- The packet is malformed. -/
  | rejected
  /-- The body ends where a number is expected, or there is no room for a text. -/
  | overrun
  deriving DecidableEq, Repr, Inhabited

/-- The text that UTF-8 bytes stand for. -/
def utf8Text? (bytes : List UInt8) : Option String := String.fromUTF8? ⟨bytes.toArray⟩

namespace Decoding

/-- Longest topic of a filter, in bytes. -/
def maxFilterLength : Nat := 256

/-- Longest name of an unknown protocol, in bytes. -/
def maxProtocolLength : Nat := 10

/-- One byte that has to be there. -/
def byte : List UInt8 → Except Fault (UInt8 × List UInt8)
  | [] => .error .overrun
  | b :: rest => .ok (b, rest)

/-- Sixteen bits that have to be there. -/
def word (bytes : List UInt8) : Except Fault (UInt16 × List UInt8) := do
  let (high, rest) ← byte bytes
  let (low, rest) ← byte rest
  .ok (high.toUInt16 <<< 8 ||| low.toUInt16, rest)

/-- A packet id, which is not zero. -/
def id (bytes : List UInt8) : Except Fault (UInt16 × List UInt8) := do
  let (n, rest) ← word bytes
  if n = 0 then .error .rejected else .ok (n, rest)

/-- Bytes behind their number, with the check that they are all there. -/
def field : List UInt8 → Except Fault (List UInt8 × List UInt8)
  | high :: low :: rest =>
    let length := high.toNat * 256 + low.toNat
    if rest.length < length then .error .rejected else .ok (rest.take length, rest.drop length)
  | _ => .error .rejected

/-- A text behind the number of its bytes. -/
def text (bytes : List UInt8) : Except Fault (String × List UInt8) := do
  let (content, rest) ← field bytes
  match utf8Text? content with
  | some s => .ok (s, rest)
  | none => .error .rejected

/-- The quality of service with a number. -/
def qos? (n : UInt8) : Option QoS :=
  if n = 0 then some .atMostOnce
  else if n = 1 then some .atLeastOnce
  else if n = 2 then some .exactlyOnce
  else none

/-- A topic filter. One that is longer than the decoder has room for counts as an overrun. -/
def filter (bytes : List UInt8) : Except Fault (String × List UInt8) := do
  let (topic, rest) ← text bytes
  if maxFilterLength < topic.utf8ByteSize then .error .overrun else .ok (topic, rest)

/-- A topic filter and its quality of service. -/
def subscription (bytes : List UInt8) : Except Fault ((String × QoS) × List UInt8) := do
  let (topic, rest) ← filter bytes
  let (n, rest) ← byte rest
  match qos? n with
  | some quality => .ok ((topic, quality), rest)
  | none => .error .rejected

/-- A return code of SUBACK. -/
def returnCode (bytes : List UInt8) : Except Fault (Option QoS × List UInt8) := do
  let (code, rest) ← byte bytes
  if code = 0x80 then .ok (none, rest)
  else match qos? code with
    | some granted => .ok (some granted, rest)
    | none => .error .rejected

/-- Items up to the end of the body, refused if there are more than `room`. -/
def listOf {α : Type} (item : List UInt8 → Except Fault (α × List UInt8)) :
    Nat → List UInt8 → Except Fault (List α)
  | _, [] => .ok []
  | 0, bytes => do
    let _ ← item bytes
    .error .rejected
  | room + 1, bytes => do
    let (x, rest) ← item bytes
    let xs ← listOf item room rest
    .ok (x :: xs)

/-- Why an unknown protocol is refused. The report has its name in it, and one that is longer than
the decoder has room for counts as an overrun. -/
def unknownProtocol (name : String) : Fault :=
  if maxProtocolLength < name.utf8ByteSize then .overrun else .rejected

/-- The body of CONNECT. A will, a user name and a password are checked and passed over. -/
def connect (bytes : List UInt8) : Except Fault Packet := do
  let (protocol, rest) ← text bytes
  let (level, rest) ← byte rest
  if (protocol, level) ≠ ("MQTT", 4) ∧ (protocol, level) ≠ ("MQIsdp", 3) then
    .error (unknownProtocol protocol)
  else
    let (flags, rest) ← byte rest
    let (keepAlive, rest) ← word rest
    let (clientId, rest) ← text rest
    let rest ← if flags &&& 0x04 = 0 then pure rest else do
      let (_, rest) ← text rest
      let (_, rest) ← field rest
      if (qos? (flags >>> 3 &&& 0x03)).isNone then .error .rejected else pure rest
    let rest ← if flags &&& 0x80 = 0 then pure rest else do
      let (_, rest) ← text rest
      pure rest
    if flags &&& 0x40 = 0 then pure () else do
      let _ ← field rest
    .ok (.connect ⟨keepAlive, clientId, flags &&& 0x02 ≠ 0⟩)

/-- The body of CONNACK. -/
def connack (bytes : List UInt8) : Except Fault Packet := do
  let (flags, rest) ← byte bytes
  let (code, _) ← byte rest
  if 5 < code then .error .rejected else .ok (.connack (flags &&& 0x01 ≠ 0) code)

/-- The body of PUBLISH, with the header byte for its flags. -/
def publish (header : UInt8) (bytes : List UInt8) : Except Fault Packet := do
  let (topic, rest) ← text bytes
  let (delivery, payload) ← match qos? (header >>> 1 &&& 0x03) with
    | none => .error .rejected
    | some .atMostOnce => .ok (Delivery.atMostOnce, rest)
    | some .atLeastOnce => do
      let (n, rest) ← id rest
      .ok (Delivery.atLeastOnce n, rest)
    | some .exactlyOnce => do
      let (n, rest) ← id rest
      .ok (Delivery.exactlyOnce n, rest)
  .ok (.publish ⟨header &&& 0x08 ≠ 0, delivery, header &&& 0x01 ≠ 0, topic, payload⟩)

/-- A body that starts with a packet id and holds nothing else of interest. -/
def idOnly (make : UInt16 → Packet) (bytes : List UInt8) : Except Fault Packet := do
  let (n, _) ← id bytes
  .ok (make n)

/-- The body of SUBSCRIBE. -/
def subscribe (bytes : List UInt8) : Except Fault Packet := do
  let (n, rest) ← id bytes
  .ok (.subscribe n (← listOf subscription maxSubscribeTopics rest))

/-- The body of SUBACK. -/
def suback (bytes : List UInt8) : Except Fault Packet := do
  let (n, rest) ← id bytes
  .ok (.suback n (← listOf returnCode maxSubscribeTopics rest))

/-- The body of UNSUBSCRIBE. -/
def unsubscribe (bytes : List UInt8) : Except Fault Packet := do
  let (n, rest) ← id bytes
  .ok (.unsubscribe n (← listOf filter maxSubscribeTopics rest))

/-- Whether the low half of a header byte is one that its type allows. -/
def flagsAllowed (header : UInt8) : Bool :=
  let flags := header &&& 0x0F
  match (header >>> 4).toNat with
  | 3 => header >>> 1 &&& 0x03 != 3
  | 6 => flags == 2
  | 8 => flags == 2
  | 10 => flags == 2
  | _ => flags == 0

/-- The packet with a header byte and a body. -/
def ofBody (header : UInt8) (body : List UInt8) : Except Fault Packet :=
  if !flagsAllowed header then .error .rejected
  else match (header >>> 4).toNat with
    | 1 => connect body
    | 2 => connack body
    | 3 => publish header body
    | 4 => idOnly .puback body
    | 5 => idOnly .pubrec body
    | 6 => idOnly .pubrel body
    | 7 => idOnly .pubcomp body
    | 8 => subscribe body
    | 9 => suback body
    | 10 => unsubscribe body
    | 11 => idOnly .unsuback body
    | 12 => .ok .pingreq
    | 13 => .ok .pingresp
    | 14 => .ok .disconnect
    | _ => .error .rejected

end Decoding

/-- The packet that the bytes stand for. -/
def Packet.decode : List UInt8 → Except Fault Packet
  | [] => .error .incomplete
  | header :: rest =>
    match RemainingLength.read? rest with
    | .ok (remaining, used) =>
      let body := rest.drop used
      if body.length < remaining then .error .incomplete
      else Decoding.ofBody header (body.take remaining)
    | .error .incomplete => .error .incomplete
    | .error _ => .error .rejected

end WeatherStation.Mqtt
