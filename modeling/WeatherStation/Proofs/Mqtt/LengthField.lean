import WeatherStation.Proofs.Mqtt.RoundTrip

/-!
# `WeatherStation.Proofs.Mqtt.LengthField`: which bytes are read as a length

The grammar of the length field, said without a reader. All of its bytes but the last say that
another one follows, and there are at most four. `EndsAt bytes k` says where the field in front of
some bytes ends, if it does.

* `le_length_takeWhile_iff`, `endsAt_iff`: what the computed description of a field says about its
  bytes.
* `read?_ok_iff`, `read?_incomplete_iff`, `read?_invalidLength_iff`: each answer of the reader, with
  exactly the bytes that get it.
* `readFromOr_eq`: the reader's check against the largest length never fires.
* `length_field` puts these together with the writer's form.
-/

set_option autoImplicit false

namespace WeatherStation.Proofs.Mqtt

open WeatherStation.Mqtt

/-! ### The grammar -/

/-- Byte `k`, counted from one, is the first that does not say that another one follows. -/
def EndsAt (bytes : List UInt8) (k : Nat) : Prop :=
  ∃ before last rest, bytes = before ++ last :: rest ∧ before.length + 1 = k ∧
    (∀ byte ∈ before, goesOn byte = true) ∧ goesOn last = false

/-- A list starts with so many elements of a kind exactly if each of the first ones is of it. -/
theorem le_length_takeWhile_iff {α : Type} (p : α → Bool) (xs : List α) (n : Nat) :
    n ≤ (xs.takeWhile p).length ↔ n ≤ xs.length ∧ ∀ x ∈ xs.take n, p x = true := by
  induction xs generalizing n with
  | nil => simp
  | cons x xs ih =>
    cases n with
    | zero => simp
    | succ n =>
      cases hx : p x with
      | false => simp [hx]
      | true =>
        rw [List.takeWhile_cons_of_pos hx, List.length_cons, List.length_cons, List.take_succ_cons,
          List.forall_mem_cons, Nat.add_le_add_iff_right, Nat.add_le_add_iff_right, ih]
        simp only [hx, true_and]

/-- The end of a field is behind all the bytes that go on. -/
theorem endsAt_iff {bytes : List UInt8} {k : Nat} :
    EndsAt bytes k ↔ (bytes.takeWhile goesOn).length + 1 = k ∧ k ≤ bytes.length := by
  constructor
  · rintro ⟨before, last, rest, rfl, rfl, hbefore, hlast⟩
    have hwhile : (before ++ last :: rest).takeWhile goesOn = before := by
      rw [List.takeWhile_append_of_pos hbefore, List.takeWhile_cons_of_neg (by simp [hlast]),
        List.append_nil]
    rw [hwhile, List.length_append, List.length_cons]
    omega
  · rintro ⟨rfl, hlength⟩
    -- What is left behind the bytes that go on begins with one that does not.
    have hsplit := List.takeWhile_append_dropWhile (p := goesOn) (l := bytes)
    cases hrest : bytes.dropWhile goesOn with
    | nil =>
      rw [hrest, List.append_nil] at hsplit
      rw [hsplit] at hlength
      omega
    | cons last rest =>
      have hlast := List.head?_dropWhile_not goesOn bytes
      rw [hrest] at hlast hsplit
      exact ⟨_, last, rest, hsplit.symm, rfl, List.all_eq_true.mp List.all_takeWhile,
        by simpa using hlast⟩

/-- More bytes do not change where a field ends. -/
theorem EndsAt.append {bytes : List UInt8} {k : Nat} (h : EndsAt bytes k) (more : List UInt8) :
    EndsAt (bytes ++ more) k := by
  obtain ⟨before, last, rest, rfl, hk, hbefore, hlast⟩ := h
  exact ⟨before, last, rest ++ more, by rw [List.append_assoc, List.cons_append], hk, hbefore,
    hlast⟩

/-- A number in base 128 is below the place after its last. With four bytes that is one more than
the largest length. -/
theorem placeValue_lt (bytes : List UInt8) : placeValue bytes < Nat.pow 128 bytes.length := by
  induction bytes with
  | nil => exact Nat.zero_lt_one
  | cons byte rest ih =>
    rw [placeValue, List.length_cons, pow_place_succ]
    omega

/-! ### What is read -/

section
variable {bytes : List UInt8}

/-- A length is read where the field ends within four bytes. The length is their value, and how many
there are is told with it. -/
theorem read?_ok_iff {v k : Nat} :
    RemainingLength.read? bytes = .ok (v, k) ↔
      k ≤ 4 ∧ EndsAt bytes k ∧ v = placeValue (bytes.take k) := by
  rw [endsAt_iff, read?_eq]
  -- Four bytes that go on, fewer of them before one that does not, or nothing behind them.
  split
  · rename_i hfour
    exact ⟨nofun, fun ⟨hk, ⟨hends, _⟩, _⟩ => by omega⟩
  · split
    · rename_i hfour hlast
      simp only [Except.ok.injEq, Prod.mk.injEq]
      constructor
      · rintro ⟨rfl, rfl⟩
        exact ⟨by omega, ⟨rfl, hlast⟩, rfl⟩
      · rintro ⟨-, ⟨rfl, -⟩, rfl⟩
        exact ⟨rfl, rfl⟩
    · rename_i hfour hopen
      exact ⟨nofun, fun ⟨_, ⟨hends, hlength⟩, _⟩ => by omega⟩

/-- The reader asks for more where all bytes go on and there are fewer than four. -/
theorem read?_incomplete_iff :
    RemainingLength.read? bytes = .error .incomplete ↔
      bytes.length < 4 ∧ ∀ byte ∈ bytes, goesOn byte = true := by
  have hall := le_length_takeWhile_iff goesOn bytes bytes.length
  rw [List.take_length] at hall
  have hle := (List.takeWhile_prefix (l := bytes) goesOn).length_le
  rw [read?_eq]
  split
  · exact ⟨nofun, fun ⟨hlength, _⟩ => by omega⟩
  · split
    · rename_i hfour hlast
      refine ⟨nofun, fun ⟨_, hgo⟩ => ?_⟩
      have := hall.mpr ⟨Nat.le_refl _, hgo⟩
      omega
    · rename_i hfour hopen
      exact iff_of_true rfl ⟨by omega, (hall.mp (Nat.not_lt.mp hopen)).2⟩

/-- It refuses four bytes that all go on, whatever follows. -/
theorem read?_invalidLength_iff :
    RemainingLength.read? bytes = .error .invalidLength ↔
      4 ≤ bytes.length ∧ ∀ byte ∈ bytes.take 4, goesOn byte = true := by
  rw [← le_length_takeWhile_iff, read?_eq]
  split
  · rename_i hfour
    exact iff_of_true rfl hfour
  · rename_i hfour
    refine iff_of_false ?_ hfour
    split <;> nofun

/-- There is no other answer. -/
theorem read?_ne_codec : RemainingLength.read? bytes ≠ .error .codec := by
  rw [read?_eq]
  split
  · nofun
  · split <;> nofun

/-- Whatever follows, a field that has been read or refused stays so. So a reader that gets its
bytes in pieces never has to take an answer back. -/
theorem read?_append (h : RemainingLength.read? bytes ≠ .error .incomplete) (more : List UInt8) :
    RemainingLength.read? (bytes ++ more) = RemainingLength.read? bytes := by
  match hread : RemainingLength.read? bytes with
  | .ok (v, k) =>
    obtain ⟨hfour, hends, rfl⟩ := read?_ok_iff.mp hread
    have hlength : k ≤ bytes.length := (endsAt_iff.mp hends).2
    exact read?_ok_iff.mpr ⟨hfour, hends.append more,
      by rw [List.take_append_of_le_length hlength]⟩
  | .error .invalidLength =>
    obtain ⟨hlength, hgo⟩ := read?_invalidLength_iff.mp hread
    refine read?_invalidLength_iff.mpr ⟨?_, ?_⟩
    · rw [List.length_append]
      omega
    · rwa [List.take_append_of_le_length hlength]
  | .error .incomplete => exact absurd hread h
  | .error .codec => exact absurd hread read?_ne_codec

/-- The writer's form is the shortest of those that are read as its number. The others have bytes at
their end that count nothing. -/
theorem length_encode_le_of_read? {v k : Nat} (h : RemainingLength.read? bytes = .ok (v, k)) :
    (RemainingLength.encode v).length ≤ k := by
  obtain ⟨-, hends, rfl⟩ := read?_ok_iff.mp h
  obtain ⟨hk, hlength⟩ := endsAt_iff.mp hends
  have hlt := placeValue_lt (bytes.take k)
  rw [List.length_take, Nat.min_eq_left hlength, ← hk] at hlt
  rw [← hk]
  exact length_encode_le _ hlt

end

/-! ### The check against the largest length -/

/-- `RemainingLength.readFrom` with another answer where the number is too large. -/
def readFromOr (tooLarge : Except PacketError (Nat × Nat)) (used value : Nat) :
    List UInt8 → Except PacketError (Nat × Nat)
  | [] => .error .incomplete
  | byte :: rest =>
    let value := value + byte.toNat % 128 * Nat.pow 128 used
    if RemainingLength.maximum < value then tooLarge
    else if byte.toNat < 128 then .ok (value, used + 1)
    else if used + 1 = 4 then .error .invalidLength
    else readFromOr tooLarge (used + 1) value rest

/-- The reader's own answer there is that the length is invalid. -/
theorem readFromOr_invalidLength (used value : Nat) (bytes : List UInt8) :
    readFromOr (.error .invalidLength) used value bytes =
      RemainingLength.readFrom used value bytes := by
  induction bytes generalizing used value with
  | nil => rfl
  | cons byte rest ih => simp only [readFromOr, RemainingLength.readFrom, ih]

/-- It never comes to that: four bytes cannot write a number beyond the largest length, and after
the fourth no other is looked at. -/
theorem readFromOr_eq (tooLarge : Except PacketError (Nat × Nat)) (bytes : List UInt8)
    (used value : Nat) (hused : used < 4) (hvalue : value < Nat.pow 128 used) :
    readFromOr tooLarge used value bytes = RemainingLength.readFrom used value bytes := by
  -- The value stays below the next place, as in `readFrom_eq`.
  induction bytes generalizing used value with
  | nil => rfl
  | cons byte rest ih =>
    have hnext := lt_place_succ byte hvalue
    have hmax := Nat.not_lt.mpr (le_maximum_of_place hused hnext)
    simp only [readFromOr, RemainingLength.readFrom, if_neg hmax]
    split
    · rfl
    · split
      · rfl
      · exact ih (used + 1) _ (by omega) hnext

/-! ### The law -/

/-- The length field of a packet.

1. A number up to the largest length is read as it was written, with the number of bytes that were
   written, whatever follows them. No shorter field is read as that number.
2. Some bytes are read as a number if and only if one of the first four is the first that does not
   go on. The number is the one that the bytes up to there write in base 128.
3. They are incomplete if and only if there are less than four and all go on. They are invalid if
   and only if there are four in front that go on. There is no other error.
4. Bytes that follow change neither a number nor an invalid length.
5. The check against the largest length never fires. Any other answer there would not be seen. -/
theorem length_field :
    (∀ n ≤ RemainingLength.maximum,
      (∀ rest, RemainingLength.read? (RemainingLength.encode n ++ rest) =
        .ok (n, (RemainingLength.encode n).length)) ∧
      ∀ bytes k, RemainingLength.read? bytes = .ok (n, k) →
        (RemainingLength.encode n).length ≤ k) ∧
    (∀ bytes v k, RemainingLength.read? bytes = .ok (v, k) ↔
      k ≤ 4 ∧ EndsAt bytes k ∧ v = placeValue (bytes.take k)) ∧
    (∀ bytes,
      (RemainingLength.read? bytes = .error .incomplete ↔
        bytes.length < 4 ∧ ∀ byte ∈ bytes, goesOn byte = true) ∧
      (RemainingLength.read? bytes = .error .invalidLength ↔
        4 ≤ bytes.length ∧ ∀ byte ∈ bytes.take 4, goesOn byte = true) ∧
      RemainingLength.read? bytes ≠ .error .codec) ∧
    (∀ bytes more, RemainingLength.read? bytes ≠ .error .incomplete →
      RemainingLength.read? (bytes ++ more) = RemainingLength.read? bytes) ∧
    readFromOr (.error .invalidLength) = RemainingLength.readFrom ∧
    ∀ tooLarge bytes, readFromOr tooLarge 0 0 bytes = RemainingLength.read? bytes := by
  refine ⟨fun n hn => ⟨read?_encode hn, fun bytes k => length_encode_le_of_read?⟩,
    fun bytes v k => read?_ok_iff,
    fun bytes => ⟨read?_incomplete_iff, read?_invalidLength_iff, read?_ne_codec⟩,
    fun bytes more h => read?_append h more, ?_, ?_⟩
  · funext used value bytes
    exact readFromOr_invalidLength used value bytes
  · intro tooLarge bytes
    exact readFromOr_eq tooLarge bytes 0 0 (by omega) Nat.zero_lt_one

/-- Two forms of the number 3. -/
example :
    (RemainingLength.read? [0x03, 0xFF]).toOption = some (3, 1) ∧
      (RemainingLength.read? [0x83, 0x80, 0x00]).toOption = some (3, 3) := by decide +kernel

end WeatherStation.Proofs.Mqtt
