import WeatherStation.Mqtt.Journal
import WeatherStation.Text.Hex

/-!
# `WeatherStation.Bench.Broker`: a broker that follows a script

The bench runs the station against surroundings that follow a script, on a clock of their
own. This module holds the broker: what it answers to each question of the session, and the
bytes it has under way.

A list of answers is used up one by one, and its last answer repeats. Bytes travel in
chunks. A chunk can be read from its time on; one read takes from one chunk only.
-/

set_option autoImplicit false

namespace WeatherStation.Bench

open Mqtt

/-- The first of a list of answers and what remains for later; the last one stays. -/
def takeAnswer {α : Type} : List α → Option α × List α
  | [] => (none, [])
  | [x] => (some x, [x])
  | x :: xs => (some x, xs)

/-- One byte of an answer. An answer can quote the id of the packet that it answers. -/
inductive ReplyByte where
  | literal (byte : UInt8)
  | idHigh
  | idLow
  deriving DecidableEq, Repr

/-- The bytes that hex digits write, where `PPPP` stands for the id. -/
def ReplyByte.ofText? : List Char → Option (List ReplyByte)
  | [] => some []
  | 'P' :: 'P' :: 'P' :: 'P' :: rest => (ofText? rest).map ([idHigh, idLow] ++ ·)
  | high :: low :: rest =>
    match Text.Hex.byte? high low, ofText? rest with
    | some b, some bytes => some (literal b :: bytes)
    | _, _ => none
  | _ => none

/-- The byte, in an answer to the packet with an id. -/
def ReplyByte.fill (id : UInt16) : ReplyByte → UInt8
  | .literal byte => byte
  | .idHigh => (id >>> 8).toUInt8
  | .idLow => id.toUInt8

/-- What the broker sends. -/
inductive Chunk where
  | bytes (content : List UInt8)
  /-- The end of the stream: every read from here on gives no bytes. -/
  | eof
  /-- One read fails. -/
  | failure
  deriving DecidableEq, Repr

/-- What the broker is to send in answer to a packet. -/
inductive Answer where
  | bytes (template : List ReplyByte)
  | eof
  | failure
  deriving DecidableEq, Repr

/-- One answer, and how long it takes. -/
structure Reaction where
  answer : Answer
  delay : Micros := 0
  deriving DecidableEq, Repr

/-- What is sent as an answer to the packet with an id. -/
def Answer.chunk (id : UInt16) : Answer → Chunk
  | .bytes template => .bytes (template.map (·.fill id))
  | .eof => .eof
  | .failure => .failure

/-- A chunk under way. -/
structure Queued where
  available : Micros
  chunk : Chunk
  deriving DecidableEq, Repr

/-- The kinds of packets that the broker answers. -/
inductive Cue where
  | connect
  | subscribe
  | publish
  | ping
  deriving DecidableEq, Repr

/-- The kinds of packet that a broker reacts to. -/
def Cue.all : List Cue := [connect, subscribe, publish, ping]

/-- The kind of a packet, by its header byte. -/
def Cue.ofBytes? : List UInt8 → Option Cue
  | [] => none
  | header :: _ =>
    match (header >>> 4).toNat with
    | 1 => some .connect
    | 8 => some .subscribe
    | 3 => some .publish
    | 12 => some .ping
    | _ => none

/-- What a healthy broker answers. -/
def Cue.healthy : Cue → List (List Reaction)
  | .connect => [[⟨.bytes [.literal 0x20, .literal 2, .literal 0, .literal 0], 0⟩]]
  | .subscribe =>
    [[⟨.bytes [.literal 0x90, .literal 3, .idHigh, .idLow, .literal 0], 0⟩]]
  | .publish => [[⟨.bytes [.literal 0x40, .literal 2, .idHigh, .idLow], 0⟩]]
  | .ping => [[⟨.bytes [.literal 0xD0, .literal 0], 0⟩]]

/-- The broker. -/
structure Broker where
  /-- Answers to the question for its address. -/
  addresses : List (Option Ipv4) := [some ⟨192, 168, 1, 10⟩]
  /-- Numbers of the connects that fail, counted from zero. -/
  dialFailures : List Nat := []
  dials : Nat := 0
  /-- Numbers of the writes that fail, counted from zero. -/
  writeFailures : List Nat := []
  writes : Nat := 0
  /-- How long a write takes. -/
  writeDelay : Micros := 0
  /-- Most bytes that one read gives. -/
  readMax : Option Nat := none
  onConnect : List (List Reaction) := Cue.connect.healthy
  onSubscribe : List (List Reaction) := Cue.subscribe.healthy
  onPublish : List (List Reaction) := Cue.publish.healthy
  onPing : List (List Reaction) := Cue.ping.healthy
  /-- What is under way, first chunk first. -/
  queue : List Queued := []

namespace Broker

/-- The answers to a kind of packet. -/
def reactions (b : Broker) : Cue → List (List Reaction)
  | .connect => b.onConnect
  | .subscribe => b.onSubscribe
  | .publish => b.onPublish
  | .ping => b.onPing

/-- The broker with other answers to a kind of packet. -/
def setReactions (b : Broker) (cue : Cue) (reactions : List (List Reaction)) : Broker :=
  match cue with
  | .connect => { b with onConnect := reactions }
  | .subscribe => { b with onSubscribe := reactions }
  | .publish => { b with onPublish := reactions }
  | .ping => { b with onPing := reactions }

/-- Put a chunk under way. -/
def enqueue (b : Broker) (available : Micros) (chunk : Chunk) : Broker :=
  { b with queue := b.queue ++ [⟨available, chunk⟩] }

/-- Answer the question for the address. -/
def resolve (b : Broker) : Option Ipv4 × Broker :=
  let (address, rest) := takeAnswer b.addresses
  (address.join, { b with addresses := rest })

/-- Answer a connect. -/
def dial (b : Broker) : Bool × Broker :=
  (!b.dialFailures.contains b.dials, { b with dials := b.dials + 1 })

/-- The packet id of the bytes of one packet, zero if they have none. -/
def packetId (bytes : List UInt8) : UInt16 :=
  match Packet.decode bytes with
  | .ok packet => packet.id?.getD 0
  | .error _ => 0

/-- React to a packet that was written. -/
def react (b : Broker) (now : Micros) (bytes : List UInt8) : Broker :=
  match Cue.ofBytes? bytes with
  | none => b
  | some cue =>
    let (reactions, rest) := takeAnswer (b.reactions cue)
    (reactions.getD []).foldl
      (fun b r => b.enqueue (now + r.delay) (r.answer.chunk (packetId bytes)))
      (b.setReactions cue rest)

/-- Answer a write. -/
def write (b : Broker) (now : Micros) (bytes : List UInt8) : Bool × Broker :=
  let ok := !b.writeFailures.contains b.writes
  let b := { b with writes := b.writes + 1 }
  (ok, if ok then b.react now bytes else b)

/-- Answer a read of at most `room` bytes: bytes or a failure, or nothing as long as there is
nothing to read. -/
def read (b : Broker) (now : Micros) (room : Nat) : Option (Option (List UInt8) × Broker) :=
  match b.queue with
  | [] => none
  | ⟨available, chunk⟩ :: rest =>
    if now < available then none
    else match chunk with
      | .eof => some (some [], b)
      | .failure => some (none, { b with queue := rest })
      | .bytes content =>
        let n := min room (b.readMax.getD room)
        let left := content.drop n
        some (some (content.take n),
          { b with queue := if left.isEmpty then rest else ⟨available, .bytes left⟩ :: rest })

/-- When there will be something to read. -/
def nextAvailable (b : Broker) : Option Micros := b.queue.head?.map (·.available)

/-- The connection is closed: what was under way is lost. -/
def close (b : Broker) : Broker := { b with queue := [] }

end Broker

/-! ### What the broker was asked -/

/-- A question to the broker, with its answer. Reads are not listed. -/
inductive Transaction where
  | resolve (host : String) (address : Option Ipv4)
  | connect (remote : Endpoint) (ok : Bool)
  | write (bytes : List UInt8) (ok : Bool)
  | close
  deriving DecidableEq, Repr

/-- The transaction that a journal entry tells of. -/
def Transaction.ofEntry? (entry : Entry) : Option Transaction :=
  match entry.what with
  | .answered (.resolve host) (.resolved address) => some (.resolve host address)
  | .answered (.dial remote) (.dialed ok) => some (.connect remote ok)
  | .answered (.write bytes) (.written ok) => some (.write bytes ok)
  | .answered .close .closed => some .close
  | _ => none

end WeatherStation.Bench
