import WeatherStation.Mqtt.Error

/-!
# `WeatherStation.Mqtt.RemainingLength`: the length field of a packet

The number of bytes after the length field is written in base 128, lowest place first,
in one to four bytes. The high bit of a byte says that another byte follows. `encode`
writes the shortest form; `read?` also takes forms that end in zero places.
-/

set_option autoImplicit false

namespace WeatherStation.Mqtt.RemainingLength

/-- The largest number that four bytes can hold. -/
def maximum : Nat := 268435455

/-- The length field of a number. -/
def encode (n : Nat) : List UInt8 :=
  if n < 128 then [UInt8.ofNat n] else UInt8.ofNat (n % 128 + 128) :: encode (n / 128)
termination_by n
decreasing_by omega

/-- Reads on after `used` bytes that gave `value`. -/
def readFrom (used value : Nat) : List UInt8 → Except PacketError (Nat × Nat)
  | [] => .error .incomplete
  | byte :: rest =>
    let value := value + byte.toNat % 128 * Nat.pow 128 used
    if maximum < value then .error .invalidLength
    else if byte.toNat < 128 then .ok (value, used + 1)
    else if used + 1 = 4 then .error .invalidLength
    else readFrom (used + 1) value rest

/-- The number in front of the bytes, with the number of bytes it takes. -/
def read? (bytes : List UInt8) : Except PacketError (Nat × Nat) := readFrom 0 0 bytes

end WeatherStation.Mqtt.RemainingLength
