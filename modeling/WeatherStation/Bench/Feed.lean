import WeatherStation.Mqtt.PacketReader

/-!
# `WeatherStation.Bench.Feed`: a byte stream through the packet reader

`Feed.run` pushes a stream through a reader in pieces. Before each piece it takes every packet
that is complete. It ends when the length field of a packet is broken, or when no byte can be
moved: at the end of the stream, or when the reader has no space left.
-/

set_option autoImplicit false

namespace WeatherStation.Bench

open Mqtt

/-- A stream on its way into a reader. -/
structure Feed where
  reader : PacketReader
  /-- Bytes that the reader has not got yet. -/
  rest : List UInt8
  /-- Number of bytes that the reader has got. -/
  moved : Nat := 0
  /-- Packets taken out, latest first; an error is the last one. -/
  packets : List (Except PacketError (List UInt8)) := []

namespace Feed

/-- Take the packets that are complete, and learn whether an error came up. A packet has at
least two bytes, so the bytes in use bound the number of packets. -/
def takePackets : Nat → Feed → Bool × Feed
  | 0, f => (false, f)
  | fuel + 1, f =>
    match f.reader.frame? with
    | (.ok (some n), reader) =>
      takePackets fuel { f with
        reader := reader.consume n, packets := .ok (reader.packet n) :: f.packets }
    | (.ok none, reader) => (false, { f with reader })
    | (.error e, reader) => (true, { f with reader, packets := .error e :: f.packets })

/-- Move the next bytes: at most a piece, and no more than there is space for. -/
def moveBytes (f : Feed) (piece : Nat) : Feed :=
  let bytes := f.rest.take (min piece f.reader.spare)
  { f with
    reader := f.reader.fill bytes
    rest := f.rest.drop bytes.length
    moved := f.moved + bytes.length }

/-- Packets and pieces in turn. Each turn but the last moves a byte. -/
def runFor : Nat → Nat → Feed → Feed
  | 0, _, f => f
  | fuel + 1, piece, f =>
    match f.takePackets (f.reader.buffered + 1) with
    | (true, f) => f
    | (false, f) =>
      let next := f.moveBytes piece
      if next.moved = f.moved then f else runFor fuel piece next

/-- The stream through the reader. -/
def run (reader : PacketReader) (bytes : List UInt8) (piece : Nat) : Feed :=
  runFor (bytes.length + 1) piece { reader, rest := bytes }

end Feed

end WeatherStation.Bench
