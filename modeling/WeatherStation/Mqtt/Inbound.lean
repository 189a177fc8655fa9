import WeatherStation.Mqtt.Exchange
import WeatherStation.Mqtt.PacketReader

/-!
# `WeatherStation.Mqtt.Inbound`: packets from the reader to the exchange

`receive` takes packets off the front of the reader until one of them is applied. Packets
that cannot be decoded or are of no use to a station are skipped. It ends without a packet
when the reader needs more bytes, and it fails when the stream is corrupt or the decoder
runs over the end of a packet.
-/

set_option autoImplicit false

namespace WeatherStation.Mqtt

/-- What `receive` comes back with. -/
inductive Intake where
  /-- A packet that was applied. -/
  | packet (received : Received)
  /-- More bytes are needed. -/
  | hungry
  /-- The stream has no packet boundary here. -/
  | corrupt
  /-- The decoder ran over the end of a packet. -/
  | overrun
  deriving DecidableEq, Repr

namespace PacketReader

/-- A complete packet is reported with its length, which is positive and at most what the
reader holds, and reporting it changes nothing. -/
theorem frame?_eq_some {r reader : PacketReader} {n : Nat}
    (h : r.frame? = (.ok (some n), reader)) :
    reader = r ∧ 0 < n ∧ n ≤ r.held.length := by
  unfold frame? at h
  split at h
  · simp at h
  · simp at h
  · rename_i total announced
    split at h
    · simp at h
    · split at h
      · obtain ⟨h₁, h₂⟩ := Prod.mk.inj h
        simp only [Except.ok.injEq, Option.some.injEq] at h₁
        subst h₁ h₂
        refine ⟨rfl, ?_, ‹_›⟩
        unfold announced? at announced
        split at announced
        · simp at announced
        · split at announced
          · simp only [Except.ok.injEq, Option.some.injEq] at announced
            omega
          · simp at announced
          · simp at announced
      · simp at h

/-- Taking a packet leaves fewer bytes. -/
theorem length_consume_lt {r reader : PacketReader} {n : Nat}
    (h : r.frame? = (.ok (some n), reader)) :
    (reader.consume n).held.length < r.held.length := by
  obtain ⟨rfl, hpos, hle⟩ := frame?_eq_some h
  simp only [consume, List.length_drop]
  omega

end PacketReader

/-- Take packets off the reader until one is applied. -/
def receive (now : Micros) (reader : PacketReader) (x : Exchange) :
    Intake × PacketReader × Exchange :=
  match _h : reader.frame? with
  | (.error _, reader) => (.corrupt, reader, x)
  | (.ok none, reader) => (.hungry, reader, x)
  | (.ok (some n), front) =>
    let framed := x.note now (.framed (front.packet n))
    match framed.interpret now (front.packet n) with
    | .ok (received, x) => (.packet received, front.consume n, x)
    | .error .overrun => (.overrun, front, framed)
    | .error _ => receive now (front.consume n) (framed.note now (.skipped (front.packet n)))
termination_by reader.held.length
decreasing_by exact PacketReader.length_consume_lt _h

/-- A packet that was applied is no longer in the reader. -/
theorem length_receive_lt {now : Micros} {reader reader' : PacketReader} {x x' : Exchange}
    {received : Received} (h : receive now reader x = (.packet received, reader', x')) :
    reader'.held.length < reader.held.length := by
  fun_induction receive now reader x with
  | case1 => simp at h
  | case2 => simp at h
  | case3 reader x n front hframe _ =>
    simp only [Prod.mk.injEq] at h
    rw [← h.2.1]
    exact PacketReader.length_consume_lt hframe
  | case4 => simp at h
  | case5 reader x n front hframe _ fault _ _ ih =>
    exact Nat.lt_trans (ih h) (PacketReader.length_consume_lt hframe)

end WeatherStation.Mqtt
