import WeatherStation.Decimal.Binary32

/-!
# `WeatherStation.Decimal.Reading`: decimal texts as binary32 numbers

`read?` accepts an optional sign followed by `inf`, `infinity` or `nan` in any case, or
by a decimal: digits with at most one point, at least one digit, and an optional exponent
with at least one digit. Nothing else may stand in the text, no blanks either. The value
is rounded to the nearest binary32 number, ties to the even significand, and what lies
beyond the largest number becomes an infinity.
-/

set_option autoImplicit false

namespace WeatherStation.Decimal

/-- The number written by decimal digits. -/
def digitsValue (digits : List Char) : Nat :=
  digits.foldl (fun value c => 10 * value + (c.toNat - '0'.toNat)) 0

/-- The digits of a number have its value. -/
theorem digitsValue_toDigits (n : Nat) : digitsValue (Nat.toDigits 10 n) = n :=
  Nat.ofDigitChars_toDigits (by decide) (by decide)

/-- `⌊num / den⌉`, ties to even. -/
def roundHalfEven (num den : Nat) : Nat :=
  let q := num / den
  let r := num % den
  if 2 * r < den then q
  else if 2 * r = den then q + q % 2
  else q + 1

/-- The exponent `k` with `2 ^ k ≤ num / den < 2 ^ (k + 1)`, both numbers positive. -/
def ratioLog2 (num den : Nat) : Int :=
  let k : Int := Int.ofNat num.log2 - Int.ofNat den.log2
  if num * Nat.pow 2 (-k).toNat < den * Nat.pow 2 k.toNat then k - 1 else k

/-- The 31 low bits of the binary32 number nearest to `num / den`. Adding the rounded
significand to the exponent field lets a carry move into the next binade, and the last
binade's carry gives the pattern of infinity. -/
def nearestBits (num den : Nat) : Nat :=
  if num = 0 then 0
  else
    let q : Int := max (-149) (ratioLog2 num den - 23)
    let significand := roundHalfEven (num * Nat.pow 2 (-q).toNat) (den * Nat.pow 2 q.toNat)
    min ((q + 149).toNat * 0x800000 + significand) Binary32.infinityBits

/-- The 31 low bits nearest to `coefficient * 10 ^ exponent`. `digits` bounds the number of
digits of the coefficient; beyond `10 ^ 40` and below `10 ^ (-50)` the answer is known without
the powers. -/
def nearestScaled (coefficient digits : Nat) (exponent : Int) : Nat :=
  if coefficient = 0 then 0
  else if 40 < exponent then Binary32.infinityBits
  else if exponent + digits < -50 then 0
  else nearestBits (coefficient * Nat.pow 10 exponent.toNat) (Nat.pow 10 (-exponent).toNat)

/-- An exponent: an optional sign and at least one digit, up to the end. -/
def exponent? (text : List Char) : Option Int :=
  let (negative, digits) := match text with
    | '-' :: rest => (true, rest)
    | '+' :: rest => (false, rest)
    | rest => (false, rest)
  if digits.isEmpty || digits.any (fun c => !c.isDigit) then none
  else some (if negative then -(digitsValue digits : Int) else digitsValue digits)

/-- A decimal without sign, as the 31 low bits of its number. -/
def unsigned? (text : List Char) : Option Nat :=
  let whole := text.takeWhile Char.isDigit
  let afterWhole := text.dropWhile Char.isDigit
  let (fraction, rest) := match afterWhole with
    | '.' :: more => (more.takeWhile Char.isDigit, more.dropWhile Char.isDigit)
    | more => ([], more)
  let digits := whole ++ fraction
  if digits.isEmpty then none
  else
    let scale : Int := -(fraction.length : Int)
    match rest with
    | [] => some (nearestScaled (digitsValue digits) digits.length scale)
    | c :: more =>
      if c = 'e' ∨ c = 'E' then
        (exponent? more).map fun e => nearestScaled (digitsValue digits) digits.length (scale + e)
      else none

/-- Infinities and NaN by name, in any case of letters. -/
def named? (text : List Char) : Option Nat :=
  match text.map Char.toLower with
  | ['i', 'n', 'f'] => some Binary32.infinityBits
  | ['i', 'n', 'f', 'i', 'n', 'i', 't', 'y'] => some Binary32.infinityBits
  | ['n', 'a', 'n'] => some (Binary32.infinityBits + 0x400000)
  | _ => none

/-- The number that a text writes, `none` if it writes none. -/
def read? (text : List Char) : Option Binary32 :=
  let (negative, body) := match text with
    | '-' :: rest => (true, rest)
    | '+' :: rest => (false, rest)
    | rest => (false, rest)
  ((named? body).orElse fun _ => unsigned? body).map (Binary32.ofSign negative)

end WeatherStation.Decimal
