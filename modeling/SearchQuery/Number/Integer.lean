import SearchQuery.Number.Digits

/-!
# Reading bounded integers

An integer is an optional sign and at least one digit, and it has to fit its range. The text is
read from the left and the first fault is the one reported, so a stray character after too many
digits goes unnoticed.
-/

namespace SearchQuery.Number

/-- Why a text is not an integer of the range. -/
inductive IntegerError where
  | empty | invalidDigit | tooLarge | tooSmall
deriving DecidableEq

/-- The error as it is reported. -/
def IntegerError.message : IntegerError → String
  | .empty => "cannot parse integer from empty string"
  | .invalidDigit => "invalid digit found in string"
  | .tooLarge => "number too large to fit in target type"
  | .tooSmall => "number too small to fit in target type"

/-- Reads digits up to a magnitude of `limit`, failing with `overflow` beyond it. -/
def readMagnitude (limit : Nat) (overflow : IntegerError) (acc : Nat) :
    List Char → Except IntegerError Nat
  | [] => .ok acc
  | c :: rest =>
    match digit? c with
    | none => .error .invalidDigit
    | some d =>
      if limit < 10 * acc + d then .error overflow
      else readMagnitude limit overflow (10 * acc + d) rest

/-- Reads the digits after a sign, of which there must be one. -/
def readDigits (limit : Nat) (overflow : IntegerError) : List Char → Except IntegerError Nat
  | [] => .error .invalidDigit
  | text => readMagnitude limit overflow 0 text

/-- Reads a natural number up to `limit`; a plus sign may precede it. -/
def readNat (limit : Nat) (text : String) : Except IntegerError Nat :=
  match text.toList with
  | [] => .error .empty
  | '+' :: rest => readDigits limit .tooLarge rest
  | text => readDigits limit .tooLarge text

/-- Integers of 64 bits reach from the negative of this to just below it. -/
def int64Limit : Nat := 9223372036854775808

/-- Reads an integer of 64 bits. -/
def readInt64 (text : String) : Except IntegerError Int64 :=
  match text.toList with
  | [] => .error .empty
  | '-' :: rest => do return Int64.ofInt (-(← readDigits int64Limit .tooSmall rest : Nat))
  | '+' :: rest => do return Int64.ofInt (← readDigits (int64Limit - 1) .tooLarge rest : Nat)
  | text => do return Int64.ofInt (← readDigits (int64Limit - 1) .tooLarge text : Nat)

/-- Reads a count of 32 bits. -/
def readUInt32? (text : String) : Option Nat := (readNat (UInt32.size - 1) text).toOption

/-- An integer in decimal digits after its sign. -/
def integerText (n : Int) : String :=
  if n < 0 then "-" ++ digits n.natAbs else digits n.natAbs

end SearchQuery.Number
