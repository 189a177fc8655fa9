import WeatherStation.Mqtt.Journal

/-!
# `WeatherStation.Mqtt.Exchange`: what the tasks share

The session, the publishing client and the dispatching task share a few flags, a slot for
one request, a slot for one acknowledged id and an inbox of bounded length. `interpret`
applies one packet from the broker. `liveness` compares the time of the broker's last sign
of life, kept in whole seconds, with the longest silence allowed.
-/

set_option autoImplicit false

namespace WeatherStation.Mqtt

/-- Messages that the inbox can hold. -/
def inboxCapacity : Nat := 4

/-- The state shared by the tasks. -/
structure Exchange where
  /-- Whether a session is open. -/
  connected : Bool := false
  /-- Whether the network was reported as gone since the last connect began. -/
  disconnectPending : Bool := false
  /-- Uptime seconds of the last accepting CONNACK or PINGRESP. -/
  lastAlive : UInt32 := 0
  /-- Messages dropped because the inbox was full or they were too long. -/
  dropped : UInt32 := 0
  /-- The request on its way to the session. -/
  request : Option Request := none
  /-- The last acknowledged id that the client has not looked at. -/
  ack : Option UInt16 := none
  /-- Messages to dispatch, oldest first. -/
  inbox : List Message := []
  /-- What happened so far, newest first. -/
  journal : List Entry := []

/-- What the session learns from a packet that was applied. -/
inductive Received where
  | connack (code : UInt8)
  /-- `failed` if the broker refused a topic. -/
  | suback (id : UInt16) (failed : Bool)
  | puback (id : UInt16)
  | pingresp
  /-- A message, with the id to acknowledge it by. -/
  | publish (reply : Option UInt16)
  deriving DecidableEq, Repr

/-- The id of the PUBACK that a packet asks for. -/
def Received.reply? : Received → Option UInt16
  | .publish reply => reply
  | _ => none

/-- Whether the broker still answers. -/
inductive Liveness where
  | alive
  | silent (silence : Micros)
  deriving DecidableEq, Repr

namespace Exchange

/-- Add to the journal. -/
def note (x : Exchange) (now : Micros) (what : Happening) : Exchange :=
  { x with journal := ⟨now, what⟩ :: x.journal }

/-- The link layer reports that the network is gone. -/
def notifyDisconnect (x : Exchange) (now : Micros) : Exchange :=
  { x with disconnectPending := true }.note now .notified

/-- The broker gave a sign of life. -/
def markAlive (x : Exchange) (now : Micros) : Exchange :=
  { x with lastAlive := UInt32.ofNat (min now.toSeconds 0xFFFFFFFF) }

/-- Count a message that is not kept. -/
def countDropped (x : Exchange) : Exchange := { x with dropped := x.dropped + 1 }

/-- Put a message into the inbox. Without a session it is ignored; one that is too long or
finds the inbox full is counted. -/
def deliver (x : Exchange) (topic : String) (payload : List UInt8) : Exchange :=
  if !x.connected then x
  else match Message.new? topic payload with
    | none => x.countDropped
    | some message =>
      if x.inbox.length < inboxCapacity then { x with inbox := x.inbox ++ [message] }
      else x.countDropped

/-- Take the oldest message out of the inbox. -/
def nextMessage (x : Exchange) (now : Micros) : Option (Message × Exchange) :=
  match x.inbox with
  | [] => none
  | message :: rest => some (message, { x with inbox := rest }.note now (.dispatched message))

/-- Whether the broker has been silent for longer than `maxSilence`. -/
def liveness (x : Exchange) (now maxSilence : Micros) : Liveness :=
  let silence := now - seconds x.lastAlive.toNat
  if maxSilence < silence then .silent silence else .alive

/-- Apply a packet. Packets that only a client sends, and answers to packets that the
station never sends, are rejected. -/
def apply (x : Exchange) (now : Micros) : Packet → Option (Received × Exchange)
  | .connack _ code => some (.connack code, if code = 0 then x.markAlive now else x)
  | .suback id codes => some (.suback id (codes.any Option.isNone), x)
  | .puback id => some (.puback id, { x with ack := some id })
  | .pingresp => some (.pingresp, x.markAlive now)
  | .publish m =>
    let reply := match m.delivery with
      | .atLeastOnce id => some id
      | _ => none
    some (.publish reply, x.deliver m.topic m.payload)
  | _ => none

/-- Decode the bytes of one packet and apply it. -/
def interpret (x : Exchange) (now : Micros) (bytes : List UInt8) :
    Except Fault (Received × Exchange) :=
  match Packet.decode bytes with
  | .error fault => .error fault
  | .ok packet =>
    match x.apply now packet with
    | some (received, x) => .ok (received, x.note now (.applied packet))
    | none => .error .rejected

end Exchange

end WeatherStation.Mqtt
