import WeatherStation.Mqtt.PacketReader

/-!
# `WeatherStation.Proofs.Mqtt.PacketSplit`: the packets of a byte stream

What a byte stream means, said without a reader. A packet is one header byte, a length field
of one to four bytes and as many bytes as that field says. `front` looks at the beginning of
a stream, and `split` cuts the stream into its complete packets and what is left behind them.

The length field is described by its bytes alone: its bytes up to the first without the high
bit, and the base-128 number of their low halves, lowest place first (`placeValue`). The
theorems:

* `read?_eq`: this is what `RemainingLength.read?` computes. Its check against the largest
  length never fires.
* `announced?_eq`: `PacketReader.announced?` reads the front of the bytes it holds.
* `front_append`: more bytes do not change a front that is known.
* `split_spec`: nothing is lost or reordered by the cut, and no complete packet is left behind.
* `split_eq`: the packets and the rest that a split has to have pin it down.
-/

set_option autoImplicit false

namespace WeatherStation.Proofs.Mqtt

open WeatherStation.Mqtt

/-! ### The length field -/

/-- Whether a byte of a length field says that another one follows. -/
def goesOn (byte : UInt8) : Bool := decide (128 ≤ byte.toNat)

/-- The number that the low halves of some bytes write in base 128, lowest place first. -/
def placeValue : List UInt8 → Nat
  | [] => 0
  | byte :: rest => byte.toNat % 128 + 128 * placeValue rest

/-- The place after a place. -/
theorem pow_place_succ (used : Nat) : Nat.pow 128 (used + 1) = Nat.pow 128 used * 128 := rfl

/-- A byte fills its place, so that the value stays below the next one. -/
theorem lt_place_succ {used value : Nat} (byte : UInt8) (h : value < Nat.pow 128 used) :
    value + byte.toNat % 128 * Nat.pow 128 used < Nat.pow 128 (used + 1) := by
  have hlow : byte.toNat % 128 + 1 ≤ 128 := by omega
  have hmul := Nat.mul_le_mul_right (Nat.pow 128 used) hlow
  rw [Nat.add_mul, Nat.one_mul] at hmul
  rw [pow_place_succ]
  omega

/-- No number of four places is larger than the largest length. -/
theorem le_maximum_of_place {used value : Nat} (hused : used < 4)
    (h : value < Nat.pow 128 (used + 1)) : value ≤ RemainingLength.maximum := by
  have hpow : Nat.pow 128 (used + 1) ≤ Nat.pow 128 4 :=
    Nat.pow_le_pow_right (by omega) (by omega)
  have htop : Nat.pow 128 4 = RemainingLength.maximum + 1 := by decide
  omega

/-- Reading a length field after `used` of its bytes, which gave `value`. The value stays below
the next place, so that four bytes never exceed the largest length. -/
theorem readFrom_eq (bytes : List UInt8) (used value : Nat) (hused : used < 4)
    (hvalue : value < Nat.pow 128 used) :
    RemainingLength.readFrom used value bytes =
      if 4 - used ≤ (bytes.takeWhile goesOn).length then .error .invalidLength
      else if (bytes.takeWhile goesOn).length < bytes.length then
        .ok (value +
            Nat.pow 128 used * placeValue (bytes.take ((bytes.takeWhile goesOn).length + 1)),
          used + (bytes.takeWhile goesOn).length + 1)
      else .error .incomplete := by
  -- The bound on `value` is what the induction carries.
  induction bytes generalizing used value with
  | nil =>
    have hleft : ¬ 4 - used ≤ 0 := by omega
    simp [RemainingLength.readFrom, hleft]
  | cons byte rest ih =>
    have hnext := lt_place_succ byte hvalue
    -- The check against the largest length does not fire.
    have hmax := Nat.not_lt.mpr (le_maximum_of_place hused hnext)
    simp only [RemainingLength.readFrom, if_neg hmax]
    by_cases hbyte : byte.toNat < 128
    · -- The last byte of the field.
      have hstop : goesOn byte = false := by simp [goesOn]; omega
      have hleft : ¬ 4 - used ≤ 0 := by omega
      simp [hbyte, hstop, hleft, placeValue, Nat.mul_comm]
    · have hgo : goesOn byte = true := by simp [goesOn]; omega
      simp only [if_neg hbyte, List.takeWhile_cons, hgo, if_true, List.length_cons]
      -- A fourth byte that goes on is an error, whatever follows it.
      by_cases hfour : used + 1 = 4
      · have hleft : 4 - used ≤ (rest.takeWhile goesOn).length + 1 := by omega
        rw [if_pos hfour, if_pos hleft]
      · rw [if_neg hfour, ih (used + 1) _ (by omega) hnext]
        have hshift : 4 - (used + 1) ≤ (rest.takeWhile goesOn).length ↔
            4 - used ≤ (rest.takeWhile goesOn).length + 1 := by omega
        have hplaces (n : Nat) :
            value + byte.toNat % 128 * Nat.pow 128 used + Nat.pow 128 (used + 1) * n =
              value + Nat.pow 128 used * (byte.toNat % 128 + 128 * n) := by
          rw [pow_place_succ, Nat.mul_add, Nat.mul_assoc, Nat.mul_comm (byte.toNat % 128)]
          omega
        have hused : used + 1 + (rest.takeWhile goesOn).length + 1 =
            used + ((rest.takeWhile goesOn).length + 1) + 1 := by omega
        simp only [hshift, Nat.add_lt_add_iff_right, List.take_succ_cons, placeValue, hplaces,
          hused]

/-- Reading a length field: an error if its first four bytes all say that another one follows,
the number and the number of bytes if one of them is the last, and `incomplete` if the bytes
end before that. -/
theorem read?_eq (bytes : List UInt8) :
    RemainingLength.read? bytes =
      if 4 ≤ (bytes.takeWhile goesOn).length then .error .invalidLength
      else if (bytes.takeWhile goesOn).length < bytes.length then
        .ok (placeValue (bytes.take ((bytes.takeWhile goesOn).length + 1)),
          (bytes.takeWhile goesOn).length + 1)
      else .error .incomplete := by
  have h := readFrom_eq bytes 0 0 (by omega) Nat.zero_lt_one
  have hplace : Nat.pow 128 0 = 1 := rfl
  simpa only [RemainingLength.read?, Nat.sub_zero, hplace, Nat.one_mul, Nat.zero_add]
    using h

/-! ### The front of a stream -/

/-- What the beginning of a stream says about the packet in front. -/
inductive Front where
  /-- Header byte and length field are not complete. -/
  | short
  /-- The first four bytes of the length field all say that another one follows. -/
  | broken
  /-- Header byte, length field and body have this many bytes together. -/
  | packet (total : Nat)
  deriving DecidableEq, Repr

/-- The front of a stream: one header byte, the bytes of the length field up to the first that
does not go on, and as many bytes as it says. -/
def front : List UInt8 → Front
  | [] => .short
  | _ :: rest =>
    let more := (rest.takeWhile goesOn).length
    if 4 ≤ more then .broken
    else if more < rest.length then .packet (1 + (more + 1) + placeValue (rest.take (more + 1)))
    else .short

/-- The front of a stream is what the reader learns from the bytes it holds. -/
theorem announced?_eq (r : PacketReader) :
    r.announced? = match front r.held with
      | .short => .ok none
      | .broken => .error .invalidLength
      | .packet total => .ok (some total) := by
  unfold PacketReader.announced? front
  cases r.held with
  | nil => rfl
  | cons header rest =>
    simp only [read?_eq]
    by_cases hfour : 4 ≤ (rest.takeWhile goesOn).length
    · simp [hfour]
    · by_cases hlast : (rest.takeWhile goesOn).length < rest.length
      · simp [hfour, hlast]
      · simp [hfour, hlast]

/-- A packet has a header byte and at least one byte of length. -/
theorem two_le_of_front {stream : List UInt8} {total : Nat} (h : front stream = .packet total) :
    2 ≤ total := by
  cases stream with
  | nil => cases h
  | cons header rest =>
    simp only [front] at h
    split at h
    · cases h
    · split at h
      · cases h
        omega
      · cases h

/-- A front that is not known has less than a header byte and four bytes of length. -/
theorem length_lt_of_short {stream : List UInt8} (h : front stream = .short) :
    stream.length < 5 := by
  cases stream with
  | nil => simp
  | cons header rest =>
    simp only [front] at h
    split at h
    · cases h
    · split at h
      · cases h
      · have hle := (List.takeWhile_prefix (l := rest) goesOn).length_le
        simp only [List.length_cons]
        omega

/-- If a list has an element that ends a `takeWhile`, what is appended to it does not matter. -/
theorem takeWhile_append_of_lt {α : Type} (p : α → Bool) (xs ys : List α)
    (h : (xs.takeWhile p).length < xs.length) :
    (xs ++ ys).takeWhile p = xs.takeWhile p := by
  rw [List.takeWhile_append, if_neg (by omega)]

/-- What a list starts with is also what a longer list starts with. -/
theorem length_takeWhile_append_le {α : Type} (p : α → Bool) (xs ys : List α) :
    (xs.takeWhile p).length ≤ ((xs ++ ys).takeWhile p).length := by
  rw [List.takeWhile_append]
  split
  · rename_i hall
    simp only [List.length_append]
    omega
  · exact Nat.le_refl _

/-- Once the front of a stream is known, the bytes that follow do not change it. -/
theorem front_append {stream : List UInt8} (more : List UInt8) (h : front stream ≠ .short) :
    front (stream ++ more) = front stream := by
  cases stream with
  | nil => exact absurd rfl h
  | cons header rest =>
    simp only [front, List.cons_append] at h ⊢
    by_cases hfour : 4 ≤ (rest.takeWhile goesOn).length
    · -- More bytes can only add to the bytes that go on.
      have hle := length_takeWhile_append_le goesOn rest more
      rw [if_pos hfour, if_pos (by omega)]
    · rw [if_neg hfour] at h ⊢
      by_cases hlast : (rest.takeWhile goesOn).length < rest.length
      · rw [takeWhile_append_of_lt _ _ _ hlast, if_neg hfour, if_pos hlast,
          if_pos (by rw [List.length_append]; omega),
          List.take_append_of_le_length (by omega)]
      · exact absurd (if_neg hlast) h

/-- A complete packet in front is a packet on its own. -/
theorem front_take {stream : List UInt8} {total : Nat} (h : front stream = .packet total)
    (hle : total ≤ stream.length) : front (stream.take total) = .packet total := by
  have happend := List.take_append_drop total stream
  by_cases hshort : front (stream.take total) = .short
  · -- A length field that the cut leaves open would be longer than the whole field.
    exfalso
    cases stream with
    | nil => cases h
    | cons header rest =>
      obtain ⟨m, rfl⟩ : ∃ m, total = m + 1 := ⟨total - 1, by have := two_le_of_front h; omega⟩
      have hlen : (rest.take m).length = m := by
        simp only [List.length_cons] at hle
        rw [List.length_take]
        omega
      have hmore := length_takeWhile_append_le goesOn (rest.take m) (rest.drop m)
      rw [List.take_append_drop] at hmore
      simp only [front, List.take_succ_cons] at h hshort
      split at h
      · cases h
      · split at h
        · simp only [Front.packet.injEq] at h
          split at hshort
          · cases hshort
          · split at hshort
            · cases hshort
            · omega
        · cases h
  · rw [← front_append (stream.drop total) hshort, happend, h]

/-! ### The split of a stream -/

/-- The complete packets of a stream, first one first, and the bytes behind the last of them. -/
def split (stream : List UInt8) : List (List UInt8) × List UInt8 :=
  match _h : front stream with
  | .packet total =>
    if total ≤ stream.length then
      let (packets, rest) := split (stream.drop total)
      (stream.take total :: packets, rest)
    else ([], stream)
  | _ => ([], stream)
termination_by stream.length
decreasing_by
  have hpos := two_le_of_front _h
  rw [List.length_drop]
  omega

/-- Bytes that are one complete packet. -/
def IsPacket (bytes : List UInt8) : Prop := front bytes = .packet bytes.length

/-- No complete packet stands in front. -/
def Unfinished (bytes : List UInt8) : Prop := ∀ total, front bytes = .packet total →
  bytes.length < total

/-- The split in front of a complete packet. -/
theorem split_packet (packet stream : List UInt8) (h : IsPacket packet) :
    split (packet ++ stream) = (packet :: (split stream).1, (split stream).2) := by
  have hfront : front (packet ++ stream) = .packet packet.length := by
    rw [front_append stream (by rw [h]; exact Front.noConfusion), h]
  rw [split]
  split
  · rename_i total hpacket
    rw [hfront] at hpacket
    cases hpacket
    rw [if_pos (by rw [List.length_append]; omega), List.drop_left, List.take_left]
  · rename_i hpacket
    exact absurd hfront (hpacket _)

/-- The split where no complete packet stands in front. -/
theorem split_unfinished {stream : List UInt8} (h : Unfinished stream) :
    split stream = ([], stream) := by
  rw [split]
  split
  · rename_i total hpacket
    have hlt := h total hpacket
    rw [if_neg (by omega)]
  · rfl

/-- The split behind some packets. -/
theorem split_flatten_append (packets : List (List UInt8)) (stream : List UInt8)
    (h : ∀ p ∈ packets, IsPacket p) :
    split (packets.flatten ++ stream) = (packets ++ (split stream).1, (split stream).2) := by
  induction packets with
  | nil => rfl
  | cons packet packets ih =>
    rw [List.flatten_cons, List.append_assoc, split_packet _ _ (h packet (by simp)),
      ih (fun p hp => h p (by simp [hp])), List.cons_append]

/-- The split of some packets and an unfinished rest. -/
theorem split_eq (packets : List (List UInt8)) (rest : List UInt8)
    (hpackets : ∀ p ∈ packets, IsPacket p) (hrest : Unfinished rest) :
    split (packets.flatten ++ rest) = (packets, rest) := by
  rw [split_flatten_append packets rest hpackets, split_unfinished hrest, List.append_nil]

/-- A split is a cut: its packets and the rest are the stream, its packets are packets, and no
complete packet stands in front of the rest. -/
theorem split_spec (stream : List UInt8) :
    (split stream).1.flatten ++ (split stream).2 = stream ∧
      (∀ p ∈ (split stream).1, IsPacket p) ∧ Unfinished (split stream).2 := by
  -- By the length of the stream: what follows the first packet is shorter by that packet.
  induction hlen : stream.length using Nat.strongRecOn generalizing stream with
  | ind n ih =>
    by_cases hwhole : ∃ total, front stream = .packet total ∧ total ≤ stream.length
    · obtain ⟨total, hfront, hle⟩ := hwhole
      have hpos := two_le_of_front hfront
      have htake : (stream.take total).length = total := by
        rw [List.length_take]
        omega
      have hpacket : IsPacket (stream.take total) := by
        rw [IsPacket, front_take hfront hle, htake]
      obtain ⟨hflat, hall, hrest⟩ :=
        ih _ (by rw [List.length_drop]; omega) (stream.drop total) rfl
      have hcut := split_packet (stream.take total) (stream.drop total) hpacket
      rw [List.take_append_drop] at hcut
      rw [hcut]
      refine ⟨?_, ?_, hrest⟩
      · rw [List.flatten_cons, List.append_assoc, hflat, List.take_append_drop]
      · intro p hp
        rcases List.mem_cons.mp hp with rfl | hp
        · exact hpacket
        · exact hall p hp
    · have hrest : Unfinished stream := fun total hfront =>
        Nat.lt_of_not_le fun hle => hwhole ⟨total, hfront, hle⟩
      rw [split_unfinished hrest]
      exact ⟨rfl, by simp, hrest⟩

end WeatherStation.Proofs.Mqtt
