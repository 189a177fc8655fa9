import Mathlib.Data.Rat.Defs
import WeatherStation.Decimal.Reading
import WeatherStation.Text.Hex

/-!
# `WeatherStation.Proofs.Json.Reader`: how any receiver reads a document

The station only writes documents. To say what is in them they have to be read, and the reader here
is a reader of the whole format (RFC 8259): blanks between the tokens, arrays, truth values, numbers
with a fraction and an exponent, and every escape, with two halves of a pair for a character beyond
`\uffff`. It knows nothing of the writer. A number has its exact value, and the fields of an object
keep their order.

A text is read in two stages. `tokens?` cuts it into tokens, with a `Mode` for what it is in the
middle of, and `assemble` builds the document, with a stack of the arrays and objects that are open.
Both take one step for each character or token, so that a text is read up to its end or not at all.
-/

set_option autoImplicit false

namespace WeatherStation.Proofs.Json

/-- A document as a receiver has it. -/
inductive Document where
  | null
  | boolean (value : Bool)
  | number (value : ℚ)
  | text (value : String)
  | array (items : List Document)
  /-- The fields in the order of the text. -/
  | object (fields : List (String × Document))

/-! ### Numbers -/

/-- The fraction at the start of a text, and what follows it. After the point there is a digit. -/
def fraction? : List Char → Option (List Char × List Char)
  | '.' :: rest =>
    if (rest.takeWhile Char.isDigit).isEmpty then none
    else some (rest.takeWhile Char.isDigit, rest.dropWhile Char.isDigit)
  | rest => some ([], rest)

/-- The exponent that fills the rest of a text. -/
def scale? : List Char → Option Int
  | [] => some 0
  | c :: rest => if c = 'e' ∨ c = 'E' then Decimal.exponent? rest else none

/-- A number without sign. The whole part has a digit, and does not start with a zero unless it is
one. -/
def magnitude? (text : List Char) : Option ℚ := do
  let whole := text.takeWhile Char.isDigit
  if whole.isEmpty ∨ (whole.head? = some '0' ∧ whole ≠ ['0']) then none
  let (fraction, rest) ← fraction? (text.dropWhile Char.isDigit)
  let scale ← scale? rest
  return (Decimal.digitsValue (whole ++ fraction) : ℚ) * 10 ^ (scale - fraction.length)

/-- A number. -/
def numeral? : List Char → Option ℚ
  | '-' :: rest => (magnitude? rest).map fun value => -value
  | text => magnitude? text

/-! ### Tokens -/

/-- A token. -/
inductive Token where
  | openArray
  | closeArray
  | openObject
  | closeObject
  | colon
  | comma
  | text (value : String)
  /-- A number, a truth value or null. -/
  | plain (value : Document)

/-- Blanks can stand between tokens. -/
def isBlank (c : Char) : Bool := c == ' ' || c == '\t' || c == '\n' || c == '\r'

/-- The tokens of one character. -/
def mark? (c : Char) : Option Token :=
  if c = '[' then some .openArray
  else if c = ']' then some .closeArray
  else if c = '\x7b' then some .openObject
  else if c = '\x7d' then some .closeObject
  else if c = ':' then some .colon
  else if c = ',' then some .comma
  else none

/-- What numbers and words are written with. -/
def isPlain (c : Char) : Bool := c.isAlphanum || c == '+' || c == '-' || c == '.'

/-- What a word or a number stands for. -/
def plain? (letters : List Char) : Option Document :=
  if letters = ['n', 'u', 'l', 'l'] then some .null
  else if letters = ['t', 'r', 'u', 'e'] then some (.boolean true)
  else if letters = ['f', 'a', 'l', 's', 'e'] then some (.boolean false)
  else (numeral? letters).map .number

/-- What stands for a character after a backslash. -/
def escaped? (c : Char) : Option Char :=
  if c = '"' ∨ c = '\\' ∨ c = '/' then some c
  else if c = 'b' then some (Char.ofNat 0x08)
  else if c = 't' then some (Char.ofNat 0x09)
  else if c = 'n' then some (Char.ofNat 0x0a)
  else if c = 'f' then some (Char.ofNat 0x0c)
  else if c = 'r' then some (Char.ofNat 0x0d)
  else none

/-- Where in a text between quotes the next character stands. -/
inductive Spot where
  | free
  /-- After a backslash. -/
  | escape
  /-- Among the four digits of a code unit: the first half of the pair if this is the second, the
  number of digits so far and their value. -/
  | digits (first : Option Nat) (count value : Nat)
  /-- After the first half of a pair. -/
  | half (first : Nat)
  /-- After the first half of a pair and a backslash. -/
  | halfEscape (first : Nat)

/-- What the reader is in the middle of. Letters are kept latest first. -/
inductive Mode where
  | between
  | plain (letters : List Char)
  | quoted (letters : List Char) (spot : Spot)

/-- After the code unit of an escape. Halves of a pair come in twos, the first one first. -/
def afterUnit? (letters : List Char) (first : Option Nat) (unit : Nat) : Option Mode :=
  let isFirst := 0xd800 ≤ unit ∧ unit < 0xdc00
  let isSecond := 0xdc00 ≤ unit ∧ unit < 0xe000
  match first with
  | none =>
    if isFirst then some (.quoted letters (.half unit))
    else if isSecond then none
    else some (.quoted (Char.ofNat unit :: letters) .free)
  | some high =>
    let letter := Char.ofNat (0x10000 + (high - 0xd800) * 0x400 + (unit - 0xdc00))
    if isSecond then some (.quoted (letter :: letters) .free) else none

/-- After the next character of a text between quotes, and the token it completes. -/
def quotedStep? (letters : List Char) (c : Char) : Spot → Option (Mode × List Token)
  | .free =>
    if c = '"' then some (.between, [.text (String.ofList letters.reverse)])
    else if c = '\\' then some (.quoted letters .escape, [])
    else if c.toNat < 0x20 then none
    else some (.quoted (c :: letters) .free, [])
  | .escape =>
    if c = 'u' then some (.quoted letters (.digits none 0 0), [])
    else (escaped? c).map fun letter => (.quoted (letter :: letters) .free, [])
  | .digits first count value => do
    let digit ← Text.Hex.value? c
    let value := 16 * value + digit
    if count < 3 then return (.quoted letters (.digits first (count + 1) value), [])
    return (← afterUnit? letters first value, [])
  | .half first => if c = '\\' then some (.quoted letters (.halfEscape first), []) else none
  | .halfEscape first =>
    if c = 'u' then some (.quoted letters (.digits (some first) 0 0), []) else none

/-- After the next character where a token can begin, and the token it is. -/
def betweenStep? (c : Char) : Option (Mode × List Token) :=
  if isBlank c then some (.between, [])
  else if c = '"' then some (.quoted [] .free, [])
  else if isPlain c then some (.plain [c], [])
  else (mark? c).map fun token => (.between, [token])

/-- After the next character, and the tokens it completes. -/
def Mode.step? : Mode → Char → Option (Mode × List Token)
  | .between, c => betweenStep? c
  | .plain letters, c =>
    if isPlain c then some (.plain (c :: letters), [])
    else do
      let value ← plain? letters.reverse
      let (mode, tokens) ← betweenStep? c
      return (mode, .plain value :: tokens)
  | .quoted letters spot, c => quotedStep? letters c spot

/-- The tokens that the end of the text completes. -/
def Mode.finish? : Mode → Option (List Token)
  | .between => some []
  | .plain letters => (plain? letters.reverse).map fun value => [.plain value]
  | .quoted _ _ => none

/-- The tokens of the rest of a text. -/
def tokens? (mode : Mode) : List Char → Option (List Token)
  | [] => mode.finish?
  | c :: rest => do
    let (mode, tokens) ← mode.step? c
    let more ← tokens? mode rest
    return tokens ++ more

/-! ### Documents -/

/-- An array or an object that is open, with what is in it so far, latest first. -/
inductive Frame where
  | array (items : List Document)
  /-- The value of the last key is still to come. -/
  | object (fields : List (String × Document)) (key : String)

/-- What must follow. -/
inductive Stage where
  /-- A value, or the end of an array if it has just been opened. -/
  | value (opened : Bool)
  /-- A key of an object with these fields, or its end if it has just been opened. -/
  | key (fields : List (String × Document)) (opened : Bool)
  /-- The colon after a key. -/
  | colon (fields : List (String × Document)) (key : String)
  /-- What follows a value that is complete. -/
  | done (value : Document)

/-- A document that is read up to some token. -/
structure Assembly where
  stage : Stage
  frames : List Frame

namespace Assembly

/-- After the first token of a value. -/
def begin? (frames : List Frame) : Token → Option Assembly
  | .text value => some ⟨.done (.text value), frames⟩
  | .plain value => some ⟨.done value, frames⟩
  | .openArray => some ⟨.value true, .array [] :: frames⟩
  | .openObject => some ⟨.key [] true, frames⟩
  | _ => none

/-- After the token that follows a value. -/
def continue? (value : Document) : List Frame → Token → Option Assembly
  | .array items :: frames, .comma => some ⟨.value false, .array (value :: items) :: frames⟩
  | .array items :: frames, .closeArray => some ⟨.done (.array (value :: items).reverse), frames⟩
  | .object fields key :: frames, .comma => some ⟨.key ((key, value) :: fields) false, frames⟩
  | .object fields key :: frames, .closeObject =>
    some ⟨.done (.object ((key, value) :: fields).reverse), frames⟩
  | _, _ => none

/-- After the next token. -/
def step? (a : Assembly) (token : Token) : Option Assembly :=
  match a.stage, token, a.frames with
  | .value true, .closeArray, .array _ :: frames => some ⟨.done (.array []), frames⟩
  | .value _, token, frames => begin? frames token
  | .key _ true, .closeObject, frames => some ⟨.done (.object []), frames⟩
  | .key fields _, .text key, frames => some ⟨.colon fields key, frames⟩
  | .key _ _, _, _ => none
  | .colon fields key, .colon, frames => some ⟨.value false, .object fields key :: frames⟩
  | .colon _ _, _, _ => none
  | .done value, token, frames => continue? value frames token

/-- The document that is complete after the rest of the tokens. -/
def assemble (a : Assembly) : List Token → Option Document
  | [] =>
    match a.stage, a.frames with
    | .done value, [] => some value
    | _, _ => none
  | token :: rest => (a.step? token).bind fun a => a.assemble rest

end Assembly

/-- The document that a text is. -/
def read? (text : String) : Option Document := do
  let tokens ← tokens? .between text.toList
  Assembly.assemble ⟨.value false, []⟩ tokens

/-- It reads what the station would not write, -/
example : read? " [true,\t\"\\u0041\\/\\ud83d\\ude00\"] " =
    some (.array [.boolean true, .text "A/😀"]) := by rfl

/-- and nothing that is no document. -/
example : ["", "[1,]", "[1 2]", "01", "1.", "\"\\ud83d\"", "\"\t\"", "[]]"].all
    fun text => (read? text).isNone := by rfl

end WeatherStation.Proofs.Json
