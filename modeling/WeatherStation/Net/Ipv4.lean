/-!
# `WeatherStation.Net.Ipv4`: IPv4 addresses and endpoints

An address is four octets, written in dotted decimal. `Ipv4.ofText?` accepts the
strict form only: four decimal numbers of at most three digits and at most 255,
without leading zeros and with nothing around them. `Ipv4.toText` writes that form
back.
-/

set_option autoImplicit false

namespace WeatherStation

/-- An IPv4 address, octets in the order they are written. -/
structure Ipv4 where
  a : UInt8
  b : UInt8
  c : UInt8
  d : UInt8
  deriving DecidableEq, Repr, Inhabited

namespace Ipv4

/-- The number written by a run of decimal digits, `none` if a character is no digit. -/
def digitsValue? (digits : List Char) : Option Nat :=
  digits.foldl
    (fun value c => value.bind fun n =>
      if c.isDigit then some (10 * n + (c.toNat - '0'.toNat)) else none)
    (some 0)

/-- The parts of a text between the separators. -/
def parts (separator : Char) : List Char → List (List Char)
  | [] => [[]]
  | c :: rest =>
    match parts separator rest with
    | [] => [[c]]
    | part :: more => if c = separator then [] :: part :: more else (c :: part) :: more

/-- One octet: one to three digits, no leading zero, at most 255. -/
def octet? (digits : List Char) : Option UInt8 :=
  if digits.length = 0 ∨ 3 < digits.length then none
  else if 1 < digits.length ∧ digits.head? = some '0' then none
  else match digitsValue? digits with
    | some n => if n < 256 then some (UInt8.ofNat n) else none
    | none => none

/-- The address that a text in dotted decimal names. -/
def ofText? (text : String) : Option Ipv4 :=
  match parts '.' text.toList with
  | [a, b, c, d] =>
    match octet? a, octet? b, octet? c, octet? d with
    | some a, some b, some c, some d => some ⟨a, b, c, d⟩
    | _, _, _, _ => none
  | _ => none

/-- Dotted decimal. -/
def toText (ip : Ipv4) : String :=
  s!"{ip.a.toNat}.{ip.b.toNat}.{ip.c.toNat}.{ip.d.toNat}"

end Ipv4

/-- Where a connection goes or a datagram comes from: an address and a port. -/
structure Endpoint where
  address : Ipv4
  port : UInt16
  deriving DecidableEq, Repr, Inhabited

/-- The endpoint that an address, a colon and a port number name. -/
def Endpoint.ofText? (text : String) : Option Endpoint :=
  match Ipv4.parts ':' text.toList with
  | [address, port] =>
    match Ipv4.ofText? (String.ofList address), Ipv4.digitsValue? port with
    | some address, some n =>
      if port.isEmpty || 65536 ≤ n then none else some ⟨address, UInt16.ofNat n⟩
    | _, _ => none
  | _ => none

/-- The address, a colon and the port. -/
def Endpoint.toText (e : Endpoint) : String :=
  s!"{e.address.toText}:{e.port.toNat}"

end WeatherStation
