import SearchQuery.Number.Shortest

/-!
# Text of doubles

A double is read from an optional sign and either a name (`inf`, `infinity`, `nan` in any letter
case) or digits with an optional point and exponent, and it is the double nearest to that decimal.
It is written as its shortest decimal without an exponent.
-/

namespace SearchQuery.Number

/-- Why a text is not a double. -/
inductive FloatError where
  | empty | invalid
deriving DecidableEq

/-- The error as it is reported. -/
def FloatError.message : FloatError → String
  | .empty => "cannot parse float from empty string"
  | .invalid => "invalid float literal"

/-- The double that is greater than all others. -/
def infinity : Float := Float.ofBits 0x7FF0000000000000

/-- No number at all. -/
def notANumber : Float := Float.ofBits 0x7FF8000000000000

/-- The double nearest to `mantissa · 10^exponent`. -/
def nearest (mantissa : Nat) (exponent : Int) : Float :=
  let places := (Nat.toDigits 10 mantissa).length + exponent
  if mantissa = 0 || places < -400 then Float.ofBits 0
  else if 400 < places then infinity
  else if exponent < 0 then Float.ofScientific mantissa true exponent.natAbs
  else Float.ofScientific mantissa false exponent.toNat

/-- The exponent part of a decimal: absent, or a letter, an optional sign and digits. -/
def readExponent? : List Char → Option Int
  | [] => some 0
  | c :: rest =>
    if c = 'e' || c = 'E' then
      let (negative, digits) := match rest with
        | '-' :: digits => (true, digits)
        | '+' :: digits => (false, digits)
        | digits => (false, digits)
      if digits.isEmpty || !digits.all isDigit then none
      else if negative then some (-(ofDigits 0 digits)) else some (ofDigits 0 digits)
    else none

/-- An unsigned decimal: digits around an optional point, at least one in all, and an exponent. -/
def readDecimal? (text : List Char) : Option Float :=
  let (whole, rest) := spanDigits text
  let (fraction, rest) := match rest with
    | '.' :: rest => spanDigits rest
    | _ => ([], rest)
  if whole.isEmpty && fraction.isEmpty then none
  else
    (readExponent? rest).map fun exponent =>
      nearest (ofDigits (ofDigits 0 whole) fraction) (exponent - fraction.length)

/-- An unsigned double, by name or as a decimal. -/
def readMagnitude? (text : List Char) : Option Float :=
  let name := text.map fun c => if 'A' ≤ c && c ≤ 'Z' then Char.ofNat (c.toNat + 32) else c
  if name = "inf".toList || name = "infinity".toList then some infinity
  else if name = "nan".toList then some notANumber
  else readDecimal? text

/-- Reads a double. -/
def readFloat (text : String) : Except FloatError Float :=
  let found := match text.toList with
    | '-' :: rest => (readMagnitude? rest).map (- ·)
    | '+' :: rest => readMagnitude? rest
    | text => readMagnitude? text
  if text.toList.isEmpty then .error .empty else found.elim (.error .invalid) .ok

/-- Whether the sign bit of a double is set, as it is for negative zero. -/
def isNegative (x : Float) : Bool := x.toBits.toNat.testBit 63

/-- A double as its shortest decimal, without an exponent. -/
def floatText (x : Float) : String :=
  if x.isNaN then "NaN"
  else
    let sign := if isNegative x then "-" else ""
    let magnitude :=
      if x.isInf then "inf"
      else if (Binary.ofFloat x).mantissa = 0 then "0"
      else ((Binary.ofFloat x).shortest .away).positional
    sign ++ magnitude

/-- Which of two doubles is greater; `none` if one of them is no number. -/
def compareFloat (x y : Float) : Option Ordering :=
  if x < y then some .lt else if y < x then some .gt else if x == y then some .eq else none

end SearchQuery.Number
