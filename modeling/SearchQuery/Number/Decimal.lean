import SearchQuery.Number.FloatText
import SearchQuery.Number.Integer

/-!
# Decimals of 96 bits

A decimal is a sign, a mantissa below `2^96` and a scale of at most 28 places. It is read from
digits around an optional point, with underscores anywhere after the first digit, and from
scientific notation where the plain reading fails. Fraction digits that do not fit are rounded
off, half away from zero. A decimal is written without the zeros at the end of its fraction.
-/

namespace SearchQuery

/-- The number `mantissa / 10^scale`, negated if `negative`. -/
structure Decimal where
  negative : Bool
  mantissa : Nat
  scale : Nat
deriving DecidableEq

/-- Why a text is not a decimal. -/
inductive DecimalError where
  | empty | noDigits | twoPoints | leadingUnderscore | unknownCharacter
  /-- The part before the point does not fit. -/
  | tooManyDigits
  /-- Rounding up leaves a number that does not fit. -/
  | roundingOverflow
  /-- The text after the exponent letter is not a number. -/
  | invalidExponent
  | scaleTooLarge (scale : Nat)
  /-- The exponent makes the number too large. -/
  | tooLarge
deriving DecidableEq

/-- The error as it is reported. -/
def DecimalError.message : DecimalError → String
  | .empty => "Invalid decimal: empty"
  | .noDigits => "Invalid decimal: no digits found"
  | .twoPoints => "Invalid decimal: two decimal points"
  | .leadingUnderscore => "Invalid decimal: must start lead with a number"
  | .unknownCharacter => "Invalid decimal: unknown character"
  | .tooManyDigits => "Invalid decimal: overflow from too many digits"
  | .roundingOverflow => "Invalid decimal: overflow from mantissa after rounding"
  | .invalidExponent => "Failed to parse"
  | .scaleTooLarge n =>
    "Scale exceeds the maximum precision allowed: " ++ Number.digits n ++ " > 28"
  | .tooLarge => "Number exceeds maximum value that can be represented."

namespace Decimal

/-- Mantissas have 96 bits and stay below this. -/
def mantissaLimit : Nat := 79228162514264337593543950336

/-- The largest scale. -/
def maxScale : Nat := 28

/-- A decimal as it is read, with a given sign; zero has none. -/
def signed (negative : Bool) (mantissa scale : Nat) : Decimal :=
  ⟨negative && mantissa ≠ 0, mantissa, scale⟩

/-- The fault of a character that a decimal cannot hold at its place. -/
def misplaced (c : Char) : DecimalError :=
  if c = '.' then .twoPoints else if c = '_' then .leadingUnderscore else .unknownCharacter

/-- A decimal whose next digit no longer fits: it decides the rounding, and `rest` only has to
hold digits and underscores. -/
def roundOff (negative : Bool) (mantissa scale digit : Nat) (rest : List Char) :
    Except DecimalError Decimal :=
  match rest.find? fun c => !(Number.isDigit c || c = '_') with
  | some c => .error (misplaced c)
  | none =>
    if digit < 5 then .ok (signed negative mantissa scale)
    else if mantissa + 1 < mantissaLimit then .ok (signed negative (mantissa + 1) scale)
    else if scale = 0 then .error .roundingOverflow
    else .ok (signed negative ((mantissa + 5) / 10) (scale - 1))

/-- Reads the rest of a plain decimal: `point` and `found` tell whether the point and a digit have
been seen. -/
def readRest (negative point found : Bool) (mantissa scale : Nat) :
    List Char → Except DecimalError Decimal
  | [] => if found then .ok (signed negative mantissa scale) else .error .noDigits
  | c :: rest =>
    match Number.digit? c with
    | some d =>
      if point && maxScale ≤ scale then roundOff negative mantissa scale d rest
      else if mantissaLimit ≤ 10 * mantissa + d then
        if point then roundOff negative mantissa scale d rest else .error .tooManyDigits
      else
        readRest negative point true (10 * mantissa + d) (if point then scale + 1 else scale) rest
    | none =>
      if c = '.' && !point then readRest negative true found mantissa scale rest
      else if c = '_' && found then readRest negative point found mantissa scale rest
      else .error (misplaced c)

/-- Reads a decimal without an exponent. -/
def readPlain : List Char → Except DecimalError Decimal
  | [] => .error .empty
  | '-' :: rest => readRest true false false 0 0 rest
  | '+' :: rest => readRest false false false 0 0 rest
  | text => readRest false false false 0 0 text

/-- The decimal times `10^n`. The scale gives way first, then the mantissa grows. -/
def shiftUp (d : Decimal) (n : Nat) : Except DecimalError Decimal :=
  if n ≤ d.scale then .ok { d with scale := d.scale - n }
  else if maxScale < n then .error (.scaleTooLarge n)
  else
    let mantissa := d.mantissa * Nat.pow 10 (n - d.scale)
    if mantissa < mantissaLimit then .ok { d with mantissa := mantissa, scale := 0 }
    else .error .tooLarge

/-- The decimal over `10^n`. Places beyond the largest scale are rounded off; the sign stays, even
if nothing else is left. -/
def shiftDown (d : Decimal) (n : Nat) : Except DecimalError Decimal :=
  if maxScale < n then .error (.scaleTooLarge n)
  else if d.scale + n ≤ maxScale then .ok { d with scale := d.scale + n }
  else
    let unit := Nat.pow 10 (d.scale + n - maxScale)
    .ok { d with mantissa := (2 * d.mantissa + unit) / (2 * unit), scale := maxScale }

/-- Reads the text on either side of an exponent letter. -/
def readScientific (base exponent : List Char) : Except DecimalError Decimal := do
  let d ← readPlain base
  let (down, digits) := match exponent with
    | '-' :: digits => (true, digits)
    | digits => (false, digits)
  match Number.readUInt32? (String.ofList digits) with
  | none => .error .invalidExponent
  | some n => if down then d.shiftDown n else d.shiftUp n

/-- Reads a decimal. -/
def read (text : String) : Except DecimalError Decimal :=
  match readPlain text.toList with
  | .ok d => .ok d
  | .error e =>
    match text.toList.span fun c => !(c = 'e' || c = 'E') with
    | (_, []) => .error e
    | (base, _ :: exponent) => readScientific base exponent

/-- The decimal without zeros at the end of its fraction; `fuel` bounds their count. -/
def normalizeWith : (fuel : Nat) → Decimal → Decimal
  | 0, d => d
  | fuel + 1, d =>
    if d.scale ≠ 0 && d.mantissa % 10 = 0 then
      normalizeWith fuel { d with mantissa := d.mantissa / 10, scale := d.scale - 1 }
    else d

/-- The decimal without zeros at the end of its fraction. -/
def normalize (d : Decimal) : Decimal := normalizeWith d.scale d

/-- The decimal as text, without zeros at the end of its fraction. Zero has no sign. -/
def text (d : Decimal) : String :=
  let d := d.normalize
  (if d.negative && d.mantissa ≠ 0 then "-" else "") ++
    (⟨d.mantissa, -(d.scale : Int)⟩ : Number.DecimalDigits).positional

/-- The integer nearest to a double that is not negative, a half upwards. -/
def roundToNat (x : Float) : Nat :=
  let b := Number.Binary.ofFloat x
  if 0 ≤ b.exponent then b.mantissa * Nat.pow 2 b.exponent.toNat
  else
    let unit := Nat.pow 2 b.exponent.natAbs
    (2 * b.mantissa + unit) / (2 * unit)

/-- The decimal as a double: whole part and fraction are converted apart and added, and the sum is
rounded to the decimal's own number of places. -/
def toFloat (d : Decimal) : Float :=
  let unit := Nat.pow 10 d.scale
  let whole := Float.ofNat (d.mantissa / unit)
  let fraction := d.mantissa % unit
  let magnitude :=
    if fraction = 0 then whole
    else
      let sum := whole + Float.ofNat fraction / Float.ofNat unit
      Float.ofNat (roundToNat (sum * Float.ofNat unit)) / Float.ofNat unit
  if d.negative then -magnitude else magnitude

end Decimal

end SearchQuery
