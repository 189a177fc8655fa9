import WeatherStation.Proofs.Mqtt.Moves
import WeatherStation.Proofs.Mqtt.Truncation

/-!
# `WeatherStation.Proofs.Mqtt.RoundTrip`: what becomes of an encoded packet

The encoder and the decoder meet at the bytes. Each writer of the encoder has a lemma that says
what the reader of the same thing makes of its bytes, with anything behind them:

* `read?_encode`: the length field of a number is read as that number, and takes as many bytes as
  were written, at most four (`length_encode_le`).
* `word_word`, `id_word`, `text_text`: numbers, ids and texts.
* `isPacket_encode`, `parts_encode`: what is written for any packet is one packet of a stream,
  with the header byte and the body of the encoder, as long as its body is not too long for the
  length field.
* `decode_encode_publish`: a PUBLISH is decoded as it was encoded.
-/

set_option autoImplicit false

namespace WeatherStation.Proofs.Mqtt

open WeatherStation.Mqtt

/-! ### The length field -/

/-- The writer puts out the places of a number in base 128, the lowest first, and so the value of
these places is the number. -/
theorem placeValue_encode (n : Nat) : placeValue (RemainingLength.encode n) = n := by
  fun_induction RemainingLength.encode n with
  | case1 n hsmall =>
    simp only [placeValue, UInt8.toNat_ofNat']
    omega
  | case2 n hlarge ih =>
    rw [placeValue, ih, UInt8.toNat_ofNat']
    omega

/-- All bytes of a length field go on but the last. -/
theorem takeWhile_encode (n : Nat) (rest : List UInt8) :
    ((RemainingLength.encode n ++ rest).takeWhile goesOn).length + 1 =
      (RemainingLength.encode n).length := by
  fun_induction RemainingLength.encode n with
  | case1 n hsmall =>
    have hstop : goesOn (UInt8.ofNat n) = false := by
      simp only [goesOn, UInt8.toNat_ofNat', decide_eq_false_iff_not]
      omega
    simp [hstop]
  | case2 n hlarge ih =>
    have hgo : goesOn (UInt8.ofNat (n % 128 + 128)) = true := by
      simp only [goesOn, UInt8.toNat_ofNat', decide_eq_true_eq]
      omega
    rw [List.cons_append, List.takeWhile_cons_of_pos hgo, List.length_cons, List.length_cons, ih]

/-- A number with so many places in base 128 takes as many bytes. -/
theorem length_encode_le {n : Nat} (places : Nat) (h : n < Nat.pow 128 (places + 1)) :
    (RemainingLength.encode n).length ≤ places + 1 := by
  induction places generalizing n with
  | zero =>
    have hsmall : n < 128 := h
    rw [RemainingLength.encode, if_pos hsmall]
    exact Nat.le_refl 1
  | succ places ih =>
    rw [RemainingLength.encode]
    split
    · exact Nat.le_add_left 1 _
    · rw [pow_place_succ, Nat.mul_comm] at h
      exact Nat.succ_le_succ (ih (Nat.div_lt_of_lt_mul h))

/-- Up to the largest length, a length field has at most four bytes. -/
theorem length_encode_le_four {n : Nat} (h : n ≤ RemainingLength.maximum) :
    (RemainingLength.encode n).length ≤ 4 :=
  length_encode_le 3 (Nat.lt_of_le_of_lt h (by decide))

/-- A length field is read as the number that was written, whatever follows it. -/
theorem read?_encode {n : Nat} (h : n ≤ RemainingLength.maximum) (rest : List UInt8) :
    RemainingLength.read? (RemainingLength.encode n ++ rest) =
      .ok (n, (RemainingLength.encode n).length) := by
  have hmore := takeWhile_encode n rest
  have hfour := length_encode_le_four h
  rw [read?_eq, if_neg (by omega), if_pos (by rw [List.length_append]; omega), hmore,
    List.take_left, placeValue_encode]

/-! ### Numbers and texts -/

/-- A number of 16 bits is read as it was written, and the rest is left where it was. -/
theorem word_word (n : UInt16) (rest : List UInt8) :
    Decoding.word (Encoding.word n ++ rest) = .ok (n, rest) := by
  obtain ⟨hhigh, hlow⟩ := toNat_bytes n
  have hn := n.toNat_lt
  have hshift : ((n >>> 8).toUInt8.toUInt16 <<< 8).toNat = 2 ^ 8 * (n.toNat / 256) := by
    rw [UInt16.toNat_shiftLeft, UInt8.toNat_toUInt16, hhigh, Nat.shiftLeft_eq]
    simp
    omega
  refine word_ok.mpr ⟨(n >>> 8).toUInt8, n.toUInt8, rfl, UInt16.toNat_inj.mp ?_⟩
  rw [UInt16.toNat_or, hshift, UInt8.toNat_toUInt16, hlow,
    ← Nat.two_pow_add_eq_or_of_lt (by omega)]
  omega

/-- The reader of ids is that of numbers with one check, which every id but zero passes. -/
theorem id_word {n : UInt16} (h : n ≠ 0) (rest : List UInt8) :
    Decoding.id (Encoding.word n ++ rest) = .ok (n, rest) := by
  rw [Decoding.id, word_word]
  exact if_neg h

/-- The length that goes in front of a text counts its bytes and not its characters. -/
theorem length_utf8 (s : String) : (utf8 s).length = s.utf8ByteSize := rfl

/-- The bytes of a text are well-formed, so the reader takes them back to the same text. -/
theorem utf8Text?_utf8 (s : String) : utf8Text? (utf8 s) = some s := by
  show String.fromUTF8? s.toByteArray = some s
  rw [String.fromUTF8?, dif_pos s.isValidUTF8]
  rfl

/-- A text is read as it was written if its length fits the two bytes for it. -/
theorem text_text {s : String} (h : s.utf8ByteSize < 65536) (rest : List UInt8) :
    Decoding.text (Encoding.text s ++ rest) = .ok (s, rest) := by
  obtain ⟨hhigh, hlow⟩ := toNat_bytes (UInt16.ofNat (utf8 s).length)
  refine text_ok.mpr ⟨_, _, utf8 s, rfl, ?_, utf8Text?_utf8 s⟩
  rw [hhigh, hlow, UInt16.toNat_ofNat', length_utf8]
  omega

/-! ### Packets -/

/-- Header byte, length field and body of what is written. -/
theorem parts_encode {packet : Packet}
    (h : (Encoding.body packet).length ≤ RemainingLength.maximum) :
    Parts packet.encode (Encoding.header packet) (Encoding.body packet) :=
  ⟨RemainingLength.encode (Encoding.body packet).length, rfl, read?_encode h _⟩

/-- What is written is one packet. -/
theorem isPacket_encode {packet : Packet}
    (h : (Encoding.body packet).length ≤ RemainingLength.maximum) : IsPacket packet.encode := by
  have hmore := takeWhile_encode (Encoding.body packet).length (Encoding.body packet)
  have hfour := length_encode_le_four h
  simp only [IsPacket, Packet.encode, front, List.cons_append, List.length_cons,
    List.length_append]
  rw [if_neg (by omega), if_pos (by omega), hmore, List.take_left, placeValue_encode]
  congr 1
  omega

/-- The parts of the header byte of a PUBLISH do not overlap. -/
theorem header_parts (duplicate retain : Bool) {quality : UInt8}
    (h : quality = 0 ∨ quality = 1 ∨ quality = 2) :
    let header := (0x30 : UInt8) ||| Encoding.flag duplicate 0x08 ||| quality <<< 1 |||
      Encoding.flag retain 0x01
    Decoding.flagsAllowed header = true ∧ (header >>> 4).toNat = 3 ∧
      decide (header &&& 0x08 ≠ 0) = duplicate ∧ decide (header &&& 0x01 ≠ 0) = retain ∧
      header >>> 1 &&& 0x03 = quality := by
  rcases h with rfl | rfl | rfl <;> cases duplicate <;> cases retain <;> decide

/-- The quality takes two of the eight bits of the header, of which the writer never sets both. The
header byte can be taken apart for this reason. -/
theorem deliveryQoS_cases (delivery : Delivery) :
    Encoding.deliveryQoS delivery = 0 ∨ Encoding.deliveryQoS delivery = 1 ∨
      Encoding.deliveryQoS delivery = 2 := by
  cases delivery <;> simp [Encoding.deliveryQoS]

/-- A PUBLISH is decoded as it was encoded, if its topic fits the two bytes for its length. The
flags and the quality come from the header byte, the id is there exactly if there is a quality, and
what the topic and the id leave of the body is the payload. -/
theorem decode_encode_publish {m : Publish} (htopic : m.topic.utf8ByteSize < 65536)
    (hid : m.delivery.id? ≠ some 0)
    (hbody : (Encoding.body (.publish m)).length ≤ RemainingLength.maximum) :
    Packet.decode (Packet.publish m).encode = .ok (.publish m) := by
  obtain ⟨duplicate, delivery, retain, topic, payload⟩ := m
  obtain ⟨hallowed, htype, hduplicate, hretain, hqos⟩ :=
    header_parts duplicate retain (deliveryQoS_cases delivery)
  rw [decode_of_parts (parts_encode hbody), Decoding.ofBody, Encoding.header, hallowed, htype]
  show Decoding.publish _ (Encoding.text topic ++ (delivery.id?.map Encoding.word).getD [] ++
    payload) = _
  rw [List.append_assoc, Decoding.publish, bind_eq_ok]
  refine ⟨_, text_text htopic _, ?_⟩
  dsimp only
  rw [hqos, hduplicate, hretain]
  cases delivery with
  | atMostOnce => rfl
  | atLeastOnce id =>
    have hne : id ≠ 0 := fun hzero => hid (congrArg some hzero)
    show Decoding.id (Encoding.word id ++ payload) >>= _ = _
    rw [id_word hne]
    rfl
  | exactlyOnce id =>
    have hne : id ≠ 0 := fun hzero => hid (congrArg some hzero)
    show Decoding.id (Encoding.word id ++ payload) >>= _ = _
    rw [id_word hne]
    rfl

end WeatherStation.Proofs.Mqtt
