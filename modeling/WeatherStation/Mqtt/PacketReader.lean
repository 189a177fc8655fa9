import WeatherStation.Mqtt.RemainingLength

/-!
# `WeatherStation.Mqtt.PacketReader`: packets out of a byte stream

The stream arrives in pieces that respect no packet boundary. The reader holds the bytes
that have arrived and not been consumed, in a buffer of fixed capacity. `frame?` reports the
length of the packet in front once it is complete. A packet larger than the buffer is
counted in `dropped`, and all of it is skipped, what has arrived of it and what is still
to come (`discard`).

The buffer is `held ++ stale`: the bytes in use, then the free space with what earlier
bytes left in it. A read writes into the free space first (`write`) and then says how many
bytes it wrote (`filled`); a claim of more bytes than were written takes the old ones.
-/

set_option autoImplicit false

namespace WeatherStation.Mqtt

/-- A buffer between the byte stream and the packets. -/
structure PacketReader where
  /-- Bytes in use, first byte of the stream first. -/
  held : List UInt8
  /-- Free space of the buffer. -/
  stale : List UInt8
  /-- Bytes still to come that belong to a packet being skipped. -/
  discard : Nat
  /-- Packets skipped so far. -/
  dropped : UInt32
  deriving DecidableEq, Repr, Inhabited

namespace PacketReader

/-- An empty reader whose buffer has `capacity` bytes. -/
def new (capacity : Nat) : PacketReader := ⟨[], List.replicate capacity 0, 0, 0⟩

/-- Size of the buffer. -/
def capacity (r : PacketReader) : Nat := r.held.length + r.stale.length

/-- Number of bytes in use. -/
def buffered (r : PacketReader) : Nat := r.held.length

/-- Free space for the next read. -/
def spare (r : PacketReader) : Nat := r.stale.length

/-- Put bytes at the start of the free space; what does not fit is left out. -/
def write (r : PacketReader) (bytes : List UInt8) : PacketReader :=
  let fitting := bytes.take r.spare
  { r with stale := fitting ++ r.stale.drop fitting.length }

/-- Take the first `n` bytes of the free space, or all of it, into use. Bytes of a packet
that is being skipped are left out, and the bytes behind them move up. -/
def filled (r : PacketReader) (n : Nat) : PacketReader :=
  let arrived := r.stale.take n
  let skipped := min r.discard arrived.length
  { r with
    held := r.held ++ arrived.drop skipped
    stale := arrived.drop (arrived.length - skipped) ++ r.stale.drop n
    discard := r.discard - skipped }

/-- Bytes from the stream, as many as there is space for. -/
def fill (r : PacketReader) (bytes : List UInt8) : PacketReader :=
  (r.write bytes).filled bytes.length

/-- Remove the first `n` bytes, or all. -/
def consume (r : PacketReader) (n : Nat) : PacketReader :=
  { r with held := r.held.drop n, stale := r.held.drop (r.held.length - n) ++ r.stale }

/-- The first `n` bytes in use, or all. -/
def packet (r : PacketReader) (n : Nat) : List UInt8 := r.held.take n

/-- Forget the bytes in use and what was to be skipped. The count of skipped packets stays. -/
def clear (r : PacketReader) : PacketReader :=
  { r with held := [], stale := r.held ++ r.stale, discard := 0 }

/-- Length of the packet in front, its header byte and length field included; `none` while
the length field is not complete. -/
def announced? (r : PacketReader) : Except PacketError (Option Nat) :=
  match r.held with
  | [] => .ok none
  | _ :: rest =>
    match RemainingLength.read? rest with
    | .ok (remaining, used) => .ok (some (1 + used + remaining))
    | .error .incomplete => .ok none
    | .error e => .error e

/-- Length of the packet in front, `none` if it is not complete. A packet that the buffer
cannot hold is dropped here, as soon as its length is known. -/
def frame? (r : PacketReader) : Except PacketError (Option Nat) × PacketReader :=
  match r.announced? with
  | .error e => (.error e, r)
  | .ok none => (.ok none, r)
  | .ok (some total) =>
    if r.capacity < total then
      (.ok none, { r.clear with discard := total - r.held.length, dropped := r.dropped + 1 })
    else if total ≤ r.held.length then (.ok (some total), r)
    else (.ok none, r)

end PacketReader

end WeatherStation.Mqtt
