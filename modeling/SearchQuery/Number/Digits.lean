/-!
# Decimal digits

Reading and writing natural numbers in decimal, on lists of characters.
-/

namespace SearchQuery.Number

/-- The value of an ASCII digit. -/
def digit? (c : Char) : Option Nat :=
  if '0' ≤ c && c ≤ '9' then some (c.toNat - 48) else none

/-- Whether `c` is an ASCII digit. -/
def isDigit (c : Char) : Bool := (digit? c).isSome

/-- The number that a text of digits writes, continuing from `acc`. Other characters count as 0. -/
def ofDigits (acc : Nat) (digits : List Char) : Nat :=
  digits.foldl (fun n c => 10 * n + (digit? c).getD 0) acc

/-- The digits at the front of a text, and what follows them. -/
def spanDigits (text : List Char) : List Char × List Char := text.span isDigit

/-- A number in decimal digits. -/
def digits (n : Nat) : String := String.ofList (Nat.toDigits 10 n)

/-- A number with zeros in front up to a given width. -/
def padded (width n : Nat) : String :=
  let text := Nat.toDigits 10 n
  String.ofList (List.replicate (width - text.length) '0' ++ text)

end SearchQuery.Number
