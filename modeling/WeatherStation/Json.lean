import WeatherStation.Decimal.Shortest
import WeatherStation.Text.Hex

/-!
# `WeatherStation.Json`: the documents the station sends

A document is a value: null, an integer, a binary32 number, a text or an object whose
fields keep their order. `Value.render` writes it without blanks. A text is quoted
with `"` and `\` escaped, the five short escapes for backspace, tab, line feed, form feed
and carriage return, and `\u` with four lower-case hex digits for the other control
characters; every other character stands for itself. A number that is infinite or no
number is written as null.
-/

set_option autoImplicit false

namespace WeatherStation.Json

mutual
/-- A document. -/
inductive Value where
  | null
  | integer (n : Int)
  | real (x : Binary32)
  | text (s : String)
  | object (fields : Fields)
/-- The fields of an object, in order. -/
inductive Fields where
  | nil
  | cons (key : String) (value : Value) (rest : Fields)
end

/-- Fields from a list of pairs. -/
def Fields.ofList : List (String × Value) → Fields
  | [] => .nil
  | (key, value) :: rest => .cons key value (ofList rest)

/-- An object from a list of pairs. -/
def Value.ofFields (fields : List (String × Value)) : Value := .object (.ofList fields)

/-- One character inside quotes. -/
def escape (c : Char) : List Char :=
  if c = '"' then ['\\', '"']
  else if c = '\\' then ['\\', '\\']
  else if c.toNat = 0x08 then ['\\', 'b']
  else if c.toNat = 0x09 then ['\\', 't']
  else if c.toNat = 0x0a then ['\\', 'n']
  else if c.toNat = 0x0c then ['\\', 'f']
  else if c.toNat = 0x0d then ['\\', 'r']
  else if c.toNat < 0x20 then
    ['\\', 'u', '0', '0', Text.Hex.digit (c.toNat / 16), Text.Hex.digit (c.toNat % 16)]
  else [c]

/-- A text in quotes. -/
def quote (s : String) : String := String.ofList ('"' :: s.toList.flatMap escape ++ ['"'])

mutual
/-- A document as text, without blanks. -/
def Value.render : Value → String
  | .null => "null"
  | .integer n => if n < 0 then "-" ++ Nat.repr n.natAbs else Nat.repr n.natAbs
  | .real x => (Decimal.Layout.message.text? x).getD "null"
  | .text s => quote s
  | .object fields => "\x7b" ++ fields.render ++ "\x7d"
/-- Fields with their names, separated by commas. -/
def Fields.render : Fields → String
  | .nil => ""
  | .cons key value .nil => quote key ++ ":" ++ value.render
  | .cons key value (.cons k v rest) =>
    quote key ++ ":" ++ value.render ++ "," ++ (Fields.cons k v rest).render
end

end WeatherStation.Json
