/-!
# `WeatherStation.Text.Hex`: bytes as hex digits

Every byte is two digits, the high one first. `encode` writes lower-case digits; `decode?`
takes both cases. `decode?_encode` says that what was written reads back.
-/

set_option autoImplicit false

namespace WeatherStation.Text.Hex

/-- A lower-case hex digit. -/
def digit (n : Nat) : Char :=
  if n < 10 then Char.ofNat ('0'.toNat + n) else Char.ofNat ('a'.toNat + (n - 10))

/-- The value of a hex digit in either case. -/
def value? (c : Char) : Option Nat :=
  let n := c.toNat
  if '0'.toNat ≤ n ∧ n ≤ '9'.toNat then some (n - '0'.toNat)
  else if 'a'.toNat ≤ n ∧ n ≤ 'f'.toNat then some (n - 'a'.toNat + 10)
  else if 'A'.toNat ≤ n ∧ n ≤ 'F'.toNat then some (n - 'A'.toNat + 10)
  else none

/-- The byte that two digits write. -/
def byte? (high low : Char) : Option UInt8 :=
  match value? high, value? low with
  | some h, some l => some (UInt8.ofNat (16 * h + l))
  | _, _ => none

/-- The digits of one byte. -/
def digits (b : UInt8) : List Char := [digit (b.toNat / 16), digit (b.toNat % 16)]

/-- The digits of bytes. -/
def encode (bytes : List UInt8) : List Char := bytes.flatMap digits

/-- The bytes that digits write, `none` if a character is no digit or one is left over. -/
def decode? : List Char → Option (List UInt8)
  | [] => some []
  | high :: low :: rest =>
    match byte? high low, decode? rest with
    | some b, some bytes => some (b :: bytes)
    | _, _ => none
  | _ => none

/-- A digit has the value that it was written for. -/
theorem value?_digit : ∀ n < 16, value? (digit n) = some n := by decide

/-- Bytes that were written read back. -/
theorem decode?_encode (bytes : List UInt8) : decode? (encode bytes) = some bytes := by
  induction bytes with
  | nil => rfl
  | cons b rest ih =>
    have hb : b.toNat < 256 := b.toNat_lt
    have hsplit : 16 * (b.toNat / 16) + b.toNat % 16 = b.toNat := Nat.div_add_mod _ _
    change decode? (digit (b.toNat / 16) :: digit (b.toNat % 16) :: encode rest) = _
    simp [decode?, byte?, value?_digit _ (by omega : b.toNat / 16 < 16),
      value?_digit _ (by omega : b.toNat % 16 < 16), hsplit, ih]

end WeatherStation.Text.Hex
