import WeatherStation.Proofs.Mqtt.PacketSplit

/-!
# `WeatherStation.Proofs.Mqtt.ReaderTracking`: the packet reader keeps up with its stream

`Follows base stream handed r` relates a reader to its past: since some moment at which
nothing was held and `base` packets had been counted as dropped, `r` was given the bytes
`stream` and handed out the packets `handed`. Behind it stands `Tracks`, the invariant that
says where the reader is: it has dealt with some packets, one after the other, and `tail` is
what came after them. Either the reader holds `tail`, or `tail` is the beginning of a packet
that is larger than the buffer, nothing is held, and `discard` is what is missing of it.

Every operation keeps the relation:

* `follows_new`, `follows_clear`: a new or cleared reader has an empty past;
* `follows_fill`: bytes that come in are added to the stream, as far as there is space;
* `follows_consume`: taking a packet that `frame?` reports adds it to what was handed out;
* `follows_frame`: asking for a packet that is not complete changes neither.

`Follows.isPrefix` draws the consequence: what was handed out begins the list of those
packets of the stream that fit the buffer.
-/

set_option autoImplicit false

namespace WeatherStation.Proofs.Mqtt

open WeatherStation.Mqtt

/-! ### What the operations do -/

/-- The capacity is fixed: bytes change place between use and free space. -/
theorem capacity_write (r : PacketReader) (bytes : List UInt8) :
    (r.write bytes).capacity = r.capacity := by
  simp only [PacketReader.write, PacketReader.capacity, PacketReader.spare, List.length_append,
    List.length_drop, List.length_take]
  omega

/-- To take bytes into use leaves the capacity, whether a packet is skipped or not. -/
theorem capacity_filled (r : PacketReader) (n : Nat) : (r.filled n).capacity = r.capacity := by
  simp only [PacketReader.filled, PacketReader.capacity, List.length_append, List.length_drop,
    List.length_take]
  omega

/-- To fill is to write and to take into use. -/
theorem capacity_fill (r : PacketReader) (bytes : List UInt8) :
    (r.fill bytes).capacity = r.capacity :=
  (capacity_filled _ bytes.length).trans (capacity_write r bytes)

/-- What is removed becomes free. -/
theorem capacity_consume (r : PacketReader) (n : Nat) :
    (r.consume n).capacity = r.capacity := by
  simp only [PacketReader.consume, PacketReader.capacity, List.length_append, List.length_drop]
  omega

/-- When the reader is cleared everything becomes free. -/
theorem capacity_clear (r : PacketReader) : r.clear.capacity = r.capacity := by
  simp only [PacketReader.clear, PacketReader.capacity, List.length_append, List.length_nil]
  omega

/-- What is held is a part of the buffer. -/
theorem held_length_le_capacity (r : PacketReader) : r.held.length ≤ r.capacity := by
  simp only [PacketReader.capacity]
  omega

/-- A new byte goes into use unless it belongs to a packet that is being skipped. -/
theorem held_fill (r : PacketReader) (bytes : List UInt8) :
    (r.fill bytes).held = r.held ++ (bytes.take r.spare).drop r.discard := by
  have harrived : (r.write bytes).stale.take bytes.length = bytes.take r.spare := by
    simp only [PacketReader.write, PacketReader.spare]
    rw [List.take_append, List.length_take,
      List.take_of_length_le (by rw [List.length_take]; omega)]
    by_cases hfits : bytes.length ≤ r.stale.length
    · rw [Nat.min_eq_right hfits, Nat.sub_self, List.take_zero, List.append_nil]
    · rw [Nat.min_eq_left (by omega), List.drop_length, List.take_nil, List.append_nil]
  -- What is skipped of it is no more than what is there.
  simp only [PacketReader.fill, PacketReader.filled, harrived]
  show r.held ++ (bytes.take r.spare).drop (min r.discard (bytes.take r.spare).length) = _
  congr 1
  by_cases hall : r.discard ≤ (bytes.take r.spare).length
  · rw [Nat.min_eq_left hall]
  · rw [Nat.min_eq_right (by omega), List.drop_length, List.drop_eq_nil_of_le (by omega)]

/-- Each new byte of a packet that is skipped is one less to skip. -/
theorem discard_fill (r : PacketReader) (bytes : List UInt8) :
    (r.fill bytes).discard = r.discard - (bytes.take r.spare).length := by
  simp only [PacketReader.fill, PacketReader.filled, PacketReader.write, PacketReader.spare,
    List.length_append, List.length_drop, List.length_take]
  omega

/-- What asking for a packet finds and does, in terms of the front of what is held. All that follows
about `frame?` starts from these cases. -/
theorem frame?_eq (r : PacketReader) :
    r.frame? = match front r.held with
      | .short => (.ok none, r)
      | .broken => (.error .invalidLength, r)
      | .packet total =>
        if r.capacity < total then
          (.ok none,
            { r.clear with discard := total - r.held.length, dropped := r.dropped + 1 })
        else if total ≤ r.held.length then (.ok (some total), r)
        else (.ok none, r) := by
  unfold PacketReader.frame?
  rw [announced?_eq]
  cases front r.held with
  | short => rfl
  | broken => rfl
  | packet total => rfl

/-- A complete packet that is reported stands in front and fits the buffer. -/
theorem front_of_frame {r reader : PacketReader} {n : Nat}
    (h : r.frame? = (.ok (some n), reader)) :
    reader = r ∧ front r.held = .packet n ∧ n ≤ r.capacity ∧ n ≤ r.held.length := by
  rw [frame?_eq] at h
  split at h
  · cases h
  · cases h
  · rename_i total hfront
    split at h
    · cases h
    · split at h
      · cases h
        exact ⟨rfl, hfront, by omega, by omega⟩
      · cases h

/-- An error means that the length field in front is broken, and changes nothing. -/
theorem front_of_error {r reader : PacketReader} {e : PacketError}
    (h : r.frame? = (.error e, reader)) :
    reader = r ∧ e = .invalidLength ∧ front r.held = .broken := by
  rw [frame?_eq] at h
  split at h
  · cases h
  · rename_i hfront
    cases h
    exact ⟨rfl, rfl, hfront⟩
  · split at h
    · cases h
    · split at h
      · cases h
      · cases h

/-! ### The invariant -/

/-- Whether a packet fits a buffer of some capacity. -/
def fits (capacity : Nat) (packet : List UInt8) : Bool := decide (packet.length ≤ capacity)

/-- Whether a packet is too large for a buffer of some capacity. -/
def exceeds (capacity : Nat) (packet : List UInt8) : Bool := decide (capacity < packet.length)

/-- The number of packets known to be too large: those that are complete, and one that is still
coming in. -/
def oversized (packets : List (List UInt8)) (r : PacketReader) : Nat :=
  packets.countP (exceeds r.capacity) + if r.discard = 0 then 0 else 1

/-- The reader has dealt with the packets, and `tail` came after them. It is held as it came, or it
begins a packet that is skipped; in both cases its bytes are accounted for. -/
structure Tracks (base : UInt32) (packets : List (List UInt8)) (tail : List UInt8)
    (r : PacketReader) : Prop where
  arePackets : ∀ p ∈ packets, IsPacket p
  counted : r.dropped = base + UInt32.ofNat (oversized packets r)
  /-- The tail is held, or it begins a packet that is being skipped. -/
  place : r.discard = 0 ∧ r.held = tail ∨
    0 < r.discard ∧ r.held = [] ∧ r.capacity < tail.length + r.discard ∧
      front tail = .packet (tail.length + r.discard)

/-- Since nothing was held and `base` packets had been dropped, the reader was given the bytes
`stream` and handed out the packets `handed`. -/
def Follows (base : UInt32) (stream : List UInt8) (handed : List (List UInt8))
    (r : PacketReader) : Prop :=
  ∃ packets tail, Tracks base packets tail r ∧ packets.flatten ++ tail = stream ∧
    packets.filter (fits r.capacity) = handed

/-- A new reader was given nothing. -/
theorem follows_new (capacity : Nat) : Follows 0 [] [] (.new capacity) :=
  ⟨[], [], ⟨by simp, by simp [PacketReader.new, oversized], .inl ⟨rfl, rfl⟩⟩, rfl, rfl⟩

/-- A cleared reader starts anew, and only its count of dropped packets goes on. -/
theorem follows_clear (r : PacketReader) : Follows r.dropped [] [] r.clear :=
  ⟨[], [], ⟨by simp, by simp [PacketReader.clear, oversized], .inl ⟨rfl, rfl⟩⟩, rfl, rfl⟩

section
variable {base : UInt32} {stream : List UInt8} {handed : List (List UInt8)} {r : PacketReader}

/-- Bytes that come in while a packet is being skipped. They end it if they reach its last
byte; what follows is held. -/
theorem tracks_fill_skipping {packets : List (List UInt8)} {tail : List UInt8}
    (h : Tracks base packets tail r) (bytes : List UInt8) (hdiscard : 0 < r.discard) :
    ∃ packets' tail', Tracks base packets' tail' (r.fill bytes) ∧
      packets'.flatten ++ tail' = packets.flatten ++ tail ++ bytes.take r.spare ∧
      packets'.filter (fits r.capacity) = packets.filter (fits r.capacity) := by
  rcases h.place with ⟨hzero, -⟩ | ⟨-, hheld, hlarge, hfront⟩
  · omega
  · generalize harrived : bytes.take r.spare = arrived
    have hknown : front tail ≠ .short := by rw [hfront]; exact Front.noConfusion
    have hcapacity := capacity_fill r bytes
    have hheld' := held_fill r bytes
    have hdiscard' := discard_fill r bytes
    rw [harrived, hheld, List.nil_append] at hheld'
    rw [harrived] at hdiscard'
    by_cases hends : r.discard ≤ arrived.length
    · -- The skipped packet is complete. It joins the others, still counted once.
      have hlen : (tail ++ arrived.take r.discard).length = tail.length + r.discard := by
        rw [List.length_append, List.length_take, Nat.min_eq_left hends]
      have hexceeds : exceeds r.capacity (tail ++ arrived.take r.discard) = true := by
        rw [exceeds, hlen]
        exact decide_eq_true hlarge
      refine ⟨packets ++ [tail ++ arrived.take r.discard], arrived.drop r.discard,
        ⟨?_, ?_, .inl ⟨by omega, hheld'⟩⟩, ?_, ?_⟩
      · intro p hp
        rcases List.mem_append.mp hp with hp | hp
        · exact h.arePackets p hp
        · rw [List.mem_singleton.mp hp, IsPacket, front_append _ hknown, hfront, hlen]
      · have hdone : (r.fill bytes).discard = 0 := by omega
        have hcount : oversized (packets ++ [tail ++ arrived.take r.discard]) (r.fill bytes)
            = oversized packets r := by
          simp only [oversized, hcapacity, hdone, if_true, List.countP_append,
            List.countP_singleton, hexceeds, if_neg (Nat.ne_of_gt hdiscard), Nat.add_zero]
        rw [hcount]
        exact h.counted
      · rw [List.flatten_append, List.flatten_singleton, List.append_assoc, List.append_assoc,
          List.take_append_drop, ← List.append_assoc]
      · have hfits : fits r.capacity (tail ++ arrived.take r.discard) = false := by
          rw [fits, hlen]
          exact decide_eq_false (by omega)
        rw [List.filter_append, List.filter_cons_of_neg (by rw [hfits]; exact Bool.noConfusion),
          List.filter_nil, List.append_nil]
    · -- All of it belongs to the skipped packet.
      refine ⟨packets, tail ++ arrived, ⟨h.arePackets, ?_, .inr ⟨by omega, ?_, ?_, ?_⟩⟩,
        by rw [List.append_assoc], rfl⟩
      · have hcount : oversized packets (r.fill bytes) = oversized packets r := by
          simp only [oversized, hcapacity, if_neg (Nat.ne_of_gt hdiscard),
            if_neg (show (r.fill bytes).discard ≠ 0 by omega)]
        rw [hcount]
        exact h.counted
      · rw [hheld', List.drop_eq_nil_of_le (by omega)]
      · rw [hcapacity, List.length_append]
        omega
      · rw [front_append _ hknown, hfront, List.length_append]
        congr 1
        omega

/-- Bytes that come in are added to the stream, as far as there is space for them. -/
theorem follows_fill (h : Follows base stream handed r) (bytes : List UInt8) :
    Follows base (stream ++ bytes.take r.spare) handed (r.fill bytes) := by
  obtain ⟨packets, tail, htracks, hstream, hhanded⟩ := h
  have hcapacity := capacity_fill r bytes
  by_cases hdiscard : r.discard = 0
  · rcases htracks.place with ⟨-, hheld⟩ | ⟨hpos, -⟩
    · have hdiscard' : (r.fill bytes).discard = 0 := by rw [discard_fill]; omega
      refine ⟨packets, tail ++ bytes.take r.spare,
        ⟨htracks.arePackets, ?_, .inl ⟨hdiscard', ?_⟩⟩, ?_, ?_⟩
      · have hcount : oversized packets (r.fill bytes) = oversized packets r := by
          simp only [oversized, hcapacity, hdiscard, hdiscard']
        rw [hcount]
        exact htracks.counted
      · rw [held_fill, hdiscard, List.drop_zero, hheld]
      · rw [← hstream, List.append_assoc]
      · rw [hcapacity, hhanded]
    · omega
  · obtain ⟨packets', tail', htracks', hstream', hhanded'⟩ :=
      tracks_fill_skipping htracks bytes (by omega)
    exact ⟨packets', tail', htracks', by rw [hstream', hstream], by
      rw [hcapacity, hhanded', hhanded]⟩

/-- Taking the packet that is reported adds it to what was handed out. -/
theorem follows_consume {reader : PacketReader} {n : Nat} (h : Follows base stream handed r)
    (hframe : r.frame? = (.ok (some n), reader)) :
    Follows base stream (handed ++ [reader.packet n]) (reader.consume n) := by
  obtain ⟨rfl, hfront, hfit, hle⟩ := front_of_frame hframe
  obtain ⟨packets, tail, htracks, hstream, hhanded⟩ := h
  have hcapacity := capacity_consume reader n
  rcases htracks.place with ⟨hdiscard, hheld⟩ | ⟨-, hheld, -⟩
  · have hlen : (reader.held.take n).length = n := by rw [List.length_take]; omega
    refine ⟨packets ++ [reader.packet n], tail.drop n,
      ⟨?_, ?_, .inl ⟨hdiscard, by rw [← hheld]; rfl⟩⟩, ?_, ?_⟩
    · intro p hp
      rcases List.mem_append.mp hp with hp | hp
      · exact htracks.arePackets p hp
      · rw [List.mem_singleton.mp hp, IsPacket, PacketReader.packet, front_take hfront hle, hlen]
    · have hsmall : exceeds reader.capacity (reader.packet n) = false := by
        rw [exceeds, PacketReader.packet, hlen]
        exact decide_eq_false (by omega)
      have hcount : oversized (packets ++ [reader.packet n]) (reader.consume n)
          = oversized packets reader := by
        have hsame : (reader.consume n).discard = reader.discard := rfl
        simp [oversized, hcapacity, hsmall, hsame]
      rw [hcount]
      exact htracks.counted
    · rw [List.flatten_append, List.flatten_singleton, List.append_assoc, PacketReader.packet,
        hheld, List.take_append_drop, hstream]
    · have hfits : fits reader.capacity (reader.packet n) = true := by
        rw [fits, PacketReader.packet, hlen]
        exact decide_eq_true hfit
      rw [hcapacity, List.filter_append, hhanded, List.filter_cons_of_pos hfits,
        List.filter_nil]
  · -- While a packet is being skipped nothing is held, so that none is reported.
    rw [hheld] at hfront
    cases hfront

/-- The reader holds no complete packet, and no packet that it could not hold. -/
def Idle (r : PacketReader) : Prop :=
  front r.held = .short ∨
    ∃ total, front r.held = .packet total ∧ r.held.length < total ∧ total ≤ r.capacity

/-- When no packet is complete, the reader is left holding none, in the same buffer. -/
theorem idle_of_frame {reader : PacketReader} (hframe : r.frame? = (.ok none, reader)) :
    reader.capacity = r.capacity ∧ Idle reader := by
  rw [frame?_eq] at hframe
  split at hframe
  · rename_i hfront
    cases hframe
    exact ⟨rfl, .inl hfront⟩
  · cases hframe
  · rename_i total hfront
    split at hframe
    · cases hframe
      exact ⟨capacity_clear r, .inl rfl⟩
    · split at hframe
      · cases hframe
      · cases hframe
        exact ⟨rfl, .inr ⟨total, hfront, by omega, by omega⟩⟩

/-- Asking for a packet that is not complete adds nothing to what was handed out. A packet that
the buffer cannot hold is counted and skipped from here on. -/
theorem follows_frame {reader : PacketReader} (h : Follows base stream handed r)
    (hframe : r.frame? = (.ok none, reader)) : Follows base stream handed reader := by
  rw [frame?_eq] at hframe
  split at hframe
  · cases hframe
    exact h
  · cases hframe
  · rename_i total hfront
    split at hframe
    · rename_i hlarge
      cases hframe
      obtain ⟨packets, tail, htracks, hstream, hhanded⟩ := h
      have hle := held_length_le_capacity r
      have hclear := capacity_clear r
      rcases htracks.place with ⟨hdiscard, hheld⟩ | ⟨-, hheld, -⟩
      · refine ⟨packets, tail, ⟨htracks.arePackets, ?_, .inr ⟨?_, rfl, ?_, ?_⟩⟩, hstream, ?_⟩
        · -- It is counted here, and not again when its last byte comes in.
          have hpos : total - r.held.length ≠ 0 := by omega
          show r.dropped + 1 = _
          rw [htracks.counted]
          simp only [oversized, hdiscard, if_true, Nat.add_zero, if_neg hpos]
          show _ = base + UInt32.ofNat (packets.countP (exceeds r.clear.capacity) + 1)
          rw [hclear, UInt32.ofNat_add, UInt32.add_assoc]
          rfl
        · show 0 < total - r.held.length
          omega
        · show r.clear.capacity < tail.length + (total - r.held.length)
          rw [hclear, ← hheld]
          omega
        · show front tail = .packet (tail.length + (total - r.held.length))
          rw [← hheld, hfront]
          congr 1
          omega
        · show packets.filter (fits r.clear.capacity) = handed
          rw [hclear, hhanded]
      · rw [hheld] at hfront
        cases hfront
    · split at hframe
      · cases hframe
      · cases hframe
        exact h

/-- What was handed out begins the list of the packets of the stream that fit the buffer. A packet
that does not fit is left out of both. -/
theorem Follows.isPrefix (h : Follows base stream handed r) :
    handed <+: (split stream).1.filter (fits r.capacity) := by
  obtain ⟨packets, tail, htracks, hstream, hhanded⟩ := h
  rw [← hstream, split_flatten_append packets tail htracks.arePackets, List.filter_append,
    ← hhanded]
  exact List.prefix_append _ _

/-- A reader that holds no complete packet has dealt with every packet of the stream, and what
it holds or skips is the rest. -/
theorem split_of_idle (h : Follows base stream handed r) (hidle : Idle r) :
    ∃ packets tail, Tracks base packets tail r ∧ split stream = (packets, tail) ∧
      packets.filter (fits r.capacity) = handed := by
  obtain ⟨packets, tail, htracks, hstream, hhanded⟩ := h
  refine ⟨packets, tail, htracks, ?_, hhanded⟩
  rw [← hstream]
  refine split_eq packets tail htracks.arePackets fun total hfront => ?_
  rcases htracks.place with ⟨-, hheld⟩ | ⟨hpos, -, -, hskipped⟩
  · rcases hidle with hshort | ⟨total', hpacket, hlt, -⟩
    · rw [hheld, hfront] at hshort
      cases hshort
    · rw [hheld] at hpacket hlt
      rw [hfront] at hpacket
      cases hpacket
      exact hlt
  · -- A packet that is being skipped is not complete in the tail either.
    rw [hfront] at hskipped
    cases hskipped
    omega

end

end WeatherStation.Proofs.Mqtt
