import Mathlib.Data.Nat.Bitwise
import WeatherStation.Proofs.Sensor.Waveform

/-!
# `WeatherStation.Proofs.Sensor.Encoding`: what the sensor sends for a reading

`encode` is the sensor's side, over plain numbers: two octets for each channel, the high one first,
the temperature as a sign bit above its magnitude, and then the low octet of the sum of these four.

`decode_inverts_encoding` says that a frame decodes to the reading that it encodes, unless its
checksum happens to be zero, and to nothing else. The encoding has one form for zero degrees, but a
frame may as well hold the negative zero (`NegativeZero`), which no reading shows. That is the only
way in which two accepted frames can differ and give the same reading.

Both directions come from one description of the octets that belong to a reading (`Carries`):
`decode_eq_ok_iff` for the frame and `eq_encode_iff` for the sensor.
-/

set_option autoImplicit false

namespace WeatherStation.Proofs.Sensor

open WeatherStation.Sensor

/-! ### The sensor's side -/

/-- The sixteen bits of a temperature. -/
def temperatureField (t : Int16) : Nat :=
  if t.toInt < 0 then 0x8000 + t.toInt.natAbs else t.toInt.natAbs

/-- The octets of a reading. -/
def encode (r : Reading) : Octets :=
  let humidity := r.humidity.toNat
  let temperature := temperatureField r.temperature
  { humidityHigh := .ofNat (humidity / 256)
    humidityLow := .ofNat (humidity % 256)
    temperatureHigh := .ofNat (temperature / 256)
    temperatureLow := .ofNat (temperature % 256)
    checksum := .ofNat
      (humidity / 256 + humidity % 256 + temperature / 256 + temperature % 256) }

/-- The number in the octets of the humidity. -/
def humidityIn (o : Octets) : Nat := o.humidityHigh.toNat * 256 + o.humidityLow.toNat

/-- The number in the octets of the temperature, its sign bit included. -/
def temperatureIn (o : Octets) : Nat := o.temperatureHigh.toNat * 256 + o.temperatureLow.toNat

/-- Whether the checksum is the low octet of the sum of the others. -/
def Summed (o : Octets) : Prop :=
  o.checksum.toNat = (o.humidityHigh.toNat + o.humidityLow.toNat + o.temperatureHigh.toNat +
    o.temperatureLow.toNat) % 256

/-- Whether the temperature has the sign bit and nothing else. -/
def NegativeZero (o : Octets) : Prop := temperatureIn o = 0x8000

/-- The octets with the other sign bit, and the checksum that goes with it. -/
def otherSign (o : Octets) : Octets :=
  { o with temperatureHigh := o.temperatureHigh + 0x80, checksum := o.checksum + 0x80 }

/-- Whether octets belong to a reading. -/
structure Carries (o : Octets) (r : Reading) : Prop where
  humidity : humidityIn o = r.humidity.toNat
  temperature : temperatureIn o = temperatureField r.temperature ∨
    NegativeZero o ∧ r.temperature = 0
  in_range : -0x7FFF ≤ r.temperature.toInt
  summed : Summed o

/-! ### Sign and magnitude -/

/-- Below the sign bit a field is its magnitude, and with the sign bit it is negative. -/
theorem toInt_signedMagnitude (field : UInt16) :
    (Frame.signedMagnitude field).toInt =
      if field.toNat < 0x8000 then (field.toNat : Int) else 0x8000 - (field.toNat : Int) := by
  have hlt : field.toNat < 2 ^ 16 := field.toNat_lt
  have hmagnitude : (field &&& 0x7FFF).toNat = field.toNat % 0x8000 := by
    rw [UInt16.toNat_and]
    exact Nat.and_two_pow_sub_one_eq_mod field.toNat 15
  have hword : (field &&& 0x7FFF).toInt16.toInt = (field.toNat % 0x8000 : Nat) := by
    rw [← hmagnitude]
    refine BitVec.toInt_eq_toNat_of_lt ?_
    show 2 * (field &&& 0x7FFF).toNat < 2 ^ 16
    omega
  have hsign : field &&& 0x8000 = 0 ↔ field.toNat < 0x8000 := by
    have hbit : (field &&& 0x8000).toNat = (field.toNat.testBit 15).toNat * 2 ^ 15 := by
      rw [UInt16.toNat_and]
      exact Nat.and_two_pow field.toNat 15
    rw [← UInt16.toNat_inj, hbit, Nat.toNat_testBit, UInt16.toNat_zero]
    omega
  unfold Frame.signedMagnitude
  by_cases h : field.toNat < 0x8000
  · rw [if_pos (hsign.mpr h), if_pos h, hword]
    omega
  · -- The magnitude has fifteen bits, so its negative does not wrap.
    rw [if_neg (mt hsign.mp h), if_neg h, Int16.toInt_neg, hword]
    rw [Int.bmod_eq_of_le (by omega) (by omega)]
    omega

/-- Each temperature has one field, apart from zero, which has two. The smallest number has none. -/
theorem signedMagnitude_eq_iff {field : UInt16} {t : Int16} :
    Frame.signedMagnitude field = t ↔
      -0x7FFF ≤ t.toInt ∧
        (field.toNat = temperatureField t ∨ field.toNat = 0x8000 ∧ t = 0) := by
  have hlt : field.toNat < 2 ^ 16 := field.toNat_lt
  have hlow := t.le_toInt
  have hhigh := t.toInt_lt
  have hzero : t = 0 ↔ t.toInt = 0 := by
    rw [← Int16.toInt_inj]
    rfl
  rw [← Int16.toInt_inj, toInt_signedMagnitude, hzero]
  unfold temperatureField
  split <;> split <;> omega

/-! ### The decoder's side -/

section
variable {f : Frame} {o o' : Octets} {r : Reading}

/-- Sixteen bits of a number are two octets of it. -/
theorem toNat_toUInt16 {bits k k' : UInt64} (hk : k'.toNat = k.toNat + 8) (hlt : k'.toNat < 64) :
    (bits >>> k).toUInt16.toNat =
      (bits >>> k').toUInt8.toNat * 256 + (bits >>> k).toUInt8.toNat := by
  rw [UInt64.toNat_toUInt16, UInt64.toNat_toUInt8, UInt64.toNat_toUInt8, toNat_shift hlt,
    toNat_shift (by omega), hk, Nat.pow_add, ← Nat.div_div_eq_div_mul]
  omega

/-- The decoder finds the humidity in the first two octets. -/
theorem toNat_humidity (f : Frame) : (f.bits >>> 24).toUInt16.toNat = humidityIn f.octets :=
  toNat_toUInt16 rfl (by decide)

/-- The decoder finds the temperature in the third and the fourth octet. -/
theorem toNat_temperature (f : Frame) :
    (f.bits >>> 8).toUInt16.toNat = temperatureIn f.octets :=
  toNat_toUInt16 rfl (by decide)

/-- The decoder asks for a right checksum other than zero. -/
theorem checksumValid_iff : f.checksumValid = true ↔ f.octets.checksum ≠ 0 ∧ Summed f.octets := by
  unfold Frame.checksumValid Octets.dataSum Summed
  simp only [Bool.and_eq_true, bne_iff_ne, beq_iff_eq, ← UInt8.toNat_inj, UInt8.toNat_add]
  refine and_congr_right fun _ => ?_
  omega

/-- The frames that are accepted, and what they are taken for. -/
theorem decode_eq_ok_iff :
    f.decode = .ok r ↔ f.isComplete = true ∧ f.octets.checksum ≠ 0 ∧ Carries f.octets r := by
  -- The reading that is cut out of the bits is the given one if both channels are.
  have hreading : Reading.mk (Frame.signedMagnitude (f.bits >>> 8).toUInt16)
      (f.bits >>> 24).toUInt16 = r ↔
        (-0x7FFF ≤ r.temperature.toInt ∧
          (temperatureIn f.octets = temperatureField r.temperature ∨
            NegativeZero f.octets ∧ r.temperature = 0)) ∧
          humidityIn f.octets = r.humidity.toNat := by
    rw [← toNat_humidity, UInt16.toNat_inj]
    unfold NegativeZero
    rw [← toNat_temperature, ← signedMagnitude_eq_iff]
    cases r
    simp
  unfold Frame.decode
  by_cases hcomplete : f.isComplete = true
  · by_cases hvalid : f.checksumValid = true
    · obtain ⟨hchecksum, hsummed⟩ := checksumValid_iff.mp hvalid
      simp only [hcomplete, hvalid, Bool.not_true, Bool.false_eq_true, if_false, Except.ok.injEq,
        hreading]
      constructor
      · rintro ⟨⟨hrange, htemperature⟩, hhumidity⟩
        exact ⟨trivial, hchecksum, hhumidity, htemperature, hrange, hsummed⟩
      · rintro ⟨-, -, h⟩
        exact ⟨⟨h.in_range, h.temperature⟩, h.humidity⟩
    · simp only [hcomplete, hvalid, Bool.not_true, Bool.false_eq_true, if_false, Bool.not_false,
        if_true, reduceCtorEq, false_iff]
      rintro ⟨-, hchecksum, h⟩
      exact hvalid (checksumValid_iff.mpr ⟨hchecksum, h.summed⟩)
  · simp [hcomplete]

/-- A complete frame with a checksum that is zero or wrong. -/
theorem decode_eq_checksumInvalid (hcomplete : f.isComplete = true)
    (h : f.octets.checksum = 0 ∨ ¬ Summed f.octets) : f.decode = .error .checksumInvalid := by
  have hinvalid : ¬ f.checksumValid = true := by
    rw [checksumValid_iff]
    tauto
  simp [Frame.decode, hcomplete, hinvalid]

/-- One more octet below the others. -/
theorem toNat_below {bits : UInt64} (h : bits.toNat < 2 ^ 56) (octet : UInt8) :
    (bits <<< 8 ||| octet.toUInt64).toNat = bits.toNat * 256 + octet.toNat := by
  have hoctet : octet.toNat < 2 ^ 8 := octet.toNat_lt
  have hshift : (bits <<< 8).toNat = 2 ^ 8 * bits.toNat := by
    rw [UInt64.toNat_shiftLeft, show (8 : UInt64).toNat % 64 = 8 from rfl, Nat.shiftLeft_eq]
    omega
  rw [UInt64.toNat_or, hshift, UInt8.toNat_toUInt64, ← Nat.two_pow_add_eq_or_of_lt hoctet]
  omega

/-- Octets behind a number, as long as there is room for them. -/
theorem toNat_foldl {bits : UInt64} {octets : List UInt8}
    (h : (bits.toNat + 1) * 256 ^ octets.length ≤ 2 ^ 64) :
    (octets.foldl (fun (bits : UInt64) octet => bits <<< 8 ||| octet.toUInt64) bits).toNat =
      octets.foldl (fun n octet => n * 256 + octet.toNat) bits.toNat := by
  induction octets generalizing bits with
  | nil => rfl
  | cons octet octets ih =>
    have hoctet := octet.toNat_lt
    have hone : 1 ≤ 256 ^ octets.length := Nat.one_le_pow _ _ (by decide)
    rw [List.length_cons, Nat.pow_succ', ← Nat.mul_assoc] at h
    have hroom : (bits.toNat + 1) * 256 ≤ 2 ^ 64 :=
      Nat.le_trans (Nat.le_mul_of_pos_right _ hone) h
    have hfree : bits.toNat < 2 ^ 56 := by omega
    have hnext := toNat_below hfree octet
    rw [List.foldl_cons, List.foldl_cons, ← hnext]
    apply ih
    rw [hnext]
    exact Nat.le_trans (Nat.mul_le_mul_right _ (by omega)) h

/-- The frame of five octets gives them back. -/
theorem octets_ofOctets (o : Octets) : (Frame.ofOctets o).octets = o := by
  have hroom : ((0 : UInt64).toNat + 1) * 256 ^ o.toList.length ≤ 2 ^ 64 := by
    show (0 + 1) * 256 ^ 5 ≤ 2 ^ 64
    decide
  apply octets_of_toNat
  unfold Frame.ofOctets
  rw [toNat_foldl hroom]
  simp [Octets.toList]

/-! ### Octets and readings -/

/-- A sign and fifteen bits are two octets. -/
theorem temperatureField_lt (h : -0x7FFF ≤ r.temperature.toInt) :
    temperatureField r.temperature < 0x10000 := by
  have hhigh := r.temperature.toInt_lt
  unfold temperatureField
  split <;> omega

/-- The negative zero is no encoding. -/
theorem temperatureField_ne (t : Int16) : temperatureField t ≠ 0x8000 := by
  have hhigh := t.toInt_lt
  unfold temperatureField
  split <;> omega

/-- The field of the temperature is found again in the octets that are sent for it. -/
theorem temperatureIn_encode (h : -0x7FFF ≤ r.temperature.toInt) :
    temperatureIn (encode r) = temperatureField r.temperature := by
  have htemperature := temperatureField_lt h
  simp only [temperatureIn, encode, UInt8.toNat_ofNat']
  omega

/-- What the sensor sends for a reading belongs to it. -/
theorem carries_encode (h : -0x7FFF ≤ r.temperature.toInt) : Carries (encode r) r := by
  have hhumidity := r.humidity.toNat_lt
  have htemperature := temperatureField_lt h
  constructor
  · simp only [humidityIn, encode, UInt8.toNat_ofNat']
    omega
  · exact .inl (temperatureIn_encode h)
  · exact h
  · simp only [Summed, encode, UInt8.toNat_ofNat']
    omega

/-- Two octets and the number they write. -/
theorem octets_inj {high low high' low' : UInt8}
    (h : high'.toNat * 256 + low'.toNat = high.toNat * 256 + low.toNat) :
    high' = high ∧ low' = low := by
  have := low.toNat_lt
  have := low'.toNat_lt
  simp only [← UInt8.toNat_inj]
  omega

/-- The reading leaves open no more than the sign of zero. -/
theorem Carries.eq_of_temperature (h : Carries o r) (h' : Carries o' r)
    (heq : temperatureIn o' = temperatureIn o) : o' = o := by
  have hsummed := h.summed
  have hsummed' := h'.summed
  obtain ⟨hhigh, hlow⟩ := octets_inj (h'.humidity.trans h.humidity.symm)
  obtain ⟨thigh, tlow⟩ := octets_inj heq
  unfold Summed at hsummed hsummed'
  -- The same data have the same checksum.
  rw [hhigh, hlow, thigh, tlow, ← hsummed, UInt8.toNat_inj] at hsummed'
  cases o
  cases o'
  simp_all only

/-- Zero degrees with either sign are one reading. Two such frames have the same humidity, so their
other octets are told by the sign. -/
theorem Carries.eq_otherSign (h : Carries o r) (h' : Carries o' r)
    (hzero : temperatureIn o = 0 ∧ NegativeZero o' ∨ NegativeZero o ∧ temperatureIn o' = 0) :
    o' = otherSign o := by
  have hsummed := h.summed
  have hsummed' := h'.summed
  obtain ⟨hhigh, hlow⟩ := octets_inj (h'.humidity.trans h.humidity.symm)
  have := o.temperatureLow.toNat_lt
  have := o'.temperatureLow.toNat_lt
  unfold NegativeZero temperatureIn at hzero
  unfold Summed at hsummed hsummed'
  have htemperature : o'.temperatureHigh.toNat = (o.temperatureHigh.toNat + 128) % 256 ∧
      o'.temperatureLow.toNat = o.temperatureLow.toNat := by omega
  have hchecksum : o'.checksum.toNat = (o.checksum.toNat + 128) % 256 := by
    rw [hsummed', hsummed, hhigh, hlow, htemperature.1, htemperature.2]
    omega
  have hbit : (0x80 : UInt8).toNat = 128 := rfl
  obtain ⟨h₁, h₂, t₁, t₂, c⟩ := o
  obtain ⟨h₁', h₂', t₁', t₂', c'⟩ := o'
  simp only [otherSign, Octets.mk.injEq, ← UInt8.toNat_inj, UInt8.toNat_add, hbit]
  exact ⟨congrArg UInt8.toNat hhigh, congrArg UInt8.toNat hlow, htemperature.1, htemperature.2,
    hchecksum⟩

/-- Two forms of one reading. -/
theorem Carries.eq_or_otherSign (h : Carries o r) (h' : Carries o' r) :
    o' = o ∨ r.temperature = 0 ∧ o' = otherSign o := by
  have hfield : r.temperature = 0 → temperatureField r.temperature = 0 := by
    intro hzero
    rw [hzero]
    rfl
  by_cases heq : temperatureIn o' = temperatureIn o
  · exact .inl (h.eq_of_temperature h' heq)
  · right
    rcases h.temperature with hplain | ⟨hnegative, hzero⟩
    · rcases h'.temperature with hplain' | ⟨hnegative', hzero⟩
      · exact absurd (hplain'.trans hplain.symm) heq
      · exact ⟨hzero, h.eq_otherSign h' (.inl ⟨hplain.trans (hfield hzero), hnegative'⟩)⟩
    · rcases h'.temperature with hplain' | ⟨hnegative', -⟩
      · exact ⟨hzero, h.eq_otherSign h' (.inr ⟨hnegative, hplain'.trans (hfield hzero)⟩)⟩
      · exact absurd (Eq.trans hnegative' (Eq.symm hnegative)) heq

/-- The sensor's form is the one without the negative zero. -/
theorem Carries.eq_encode_iff (h : Carries o r) : o = encode r ↔ ¬ NegativeZero o := by
  have hencode := carries_encode h.in_range
  have hplain := temperatureIn_encode h.in_range
  constructor
  · intro heq hnegative
    rw [heq, NegativeZero, hplain] at hnegative
    exact temperatureField_ne _ hnegative
  · intro hplus
    rcases h.temperature with heq | ⟨hnegative, -⟩
    · exact hencode.eq_of_temperature h (heq.trans hplain.symm)
    · exact absurd hnegative hplus

end

/-! ### Decoding and encoding -/

/-- Decoding undoes the sensor's encoding, and the other way round.

1. The frame of a reading, of whatever humidity and with a temperature of 15 bits and a sign,
   decodes to this reading, or is refused for its checksum if that is zero.
2. The octets of an accepted frame are the encoding of the reading that it is taken for, unless its
   temperature is the negative zero, and then they are not.
3. Two accepted frames with the same reading have the same octets, or the reading has zero degrees
   and they differ in its sign and in what this makes of the checksum. -/
theorem decode_inverts_encoding :
    (∀ r : Reading, -0x7FFF ≤ r.temperature.toInt →
      (Frame.ofOctets (encode r)).decode =
        if (encode r).checksum = 0 then .error .checksumInvalid else .ok r) ∧
    (∀ (f : Frame) (r : Reading), f.decode = .ok r →
      (f.octets = encode r ↔ ¬ NegativeZero f.octets)) ∧
    (∀ (f g : Frame) (r : Reading), f.decode = .ok r → g.decode = .ok r →
      g.octets = f.octets ∨ r.temperature = 0 ∧ g.octets = otherSign f.octets) := by
  refine ⟨?_, ?_, ?_⟩
  · intro r hrange
    have hcomplete : (Frame.ofOctets (encode r)).isComplete = true := rfl
    have hoctets := octets_ofOctets (encode r)
    by_cases hchecksum : (encode r).checksum = 0
    · rw [if_pos hchecksum]
      exact decode_eq_checksumInvalid hcomplete (.inl (by rw [hoctets, hchecksum]))
    · rw [if_neg hchecksum, decode_eq_ok_iff, hoctets]
      exact ⟨hcomplete, hchecksum, carries_encode hrange⟩
  · intro f r hf
    obtain ⟨-, -, hcarries⟩ := decode_eq_ok_iff.mp hf
    exact hcarries.eq_encode_iff
  · intro f g r hf hg
    obtain ⟨-, -, hcarries⟩ := decode_eq_ok_iff.mp hf
    obtain ⟨-, -, hcarries'⟩ := decode_eq_ok_iff.mp hg
    exact hcarries.eq_or_otherSign hcarries'

/-- A reading below zero, one whose checksum is zero, and the two frames of a reading of zero
degrees. -/
theorem decode_inverts_encoding_zero :
    let plain := Frame.ofOctets ⟨0x02, 0x08, 0x00, 0x00, 0x0A⟩
    let negative := Frame.ofOctets ⟨0x02, 0x08, 0x80, 0x00, 0x8A⟩
    encode ⟨-170, 520⟩ = ⟨0x02, 0x08, 0x80, 0xAA, 0x34⟩ ∧
    (Frame.ofOctets (encode ⟨-170, 520⟩)).decode = .ok ⟨-170, 520⟩ ∧
    (Frame.ofOctets (encode ⟨0, 0x8080⟩)).decode = .error .checksumInvalid ∧
    plain.decode = .ok ⟨0, 520⟩ ∧ negative.decode = .ok ⟨0, 520⟩ ∧
    plain.octets = encode ⟨0, 520⟩ ∧ negative.octets ≠ encode ⟨0, 520⟩ ∧
    negative.octets = otherSign plain.octets := by
  intro plain negative
  obtain ⟨hforth, hback, htwo⟩ := decode_inverts_encoding
  have hplain : plain.decode = .ok ⟨0, 520⟩ := by decide +kernel
  have hnegative : negative.decode = .ok ⟨0, 520⟩ := by decide +kernel
  have hcold := hforth ⟨-170, 520⟩ (by decide)
  have hzero := hforth ⟨0, 0x8080⟩ (by decide)
  have hsame : plain.octets = encode ⟨0, 520⟩ :=
    (hback plain _ hplain).mpr (by unfold NegativeZero; decide +kernel)
  have hother : negative.octets ≠ encode ⟨0, 520⟩ :=
    fun heq => (hback negative _ hnegative).mp heq (by unfold NegativeZero; decide +kernel)
  rw [if_neg (by decide +kernel)] at hcold
  rw [if_pos (by decide +kernel)] at hzero
  refine ⟨by decide +kernel, hcold, hzero, hplain, hnegative, hsame, hother, ?_⟩
  rcases htwo plain negative _ hplain hnegative with heq | ⟨-, heq⟩
  · exact absurd (heq.trans hsame) hother
  · exact heq

end WeatherStation.Proofs.Sensor
