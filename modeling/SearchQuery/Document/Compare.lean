import SearchQuery.Json.Basic
import SearchQuery.Operator
import SearchQuery.Text.LetterCase

/-!
# Comparing JSON values

Values of one type compare as such; a string compares with a number or a truth value if it spells
one. Anything else cannot be compared.
-/

namespace SearchQuery

/-- The truth value that a text spells, in any ASCII letter case. -/
def truth? (text : String) : Option Bool :=
  let lowered := Text.asciiLowercase text
  if lowered = "true" then some true
  else if lowered = "false" then some false
  else none

namespace Json

/-- The order of two values, if they can be compared. -/
def order? : Json → Json → Option Ordering
  | number a, number b => Number.compareFloat a.toFloat b.toFloat
  | number a, string b => do Number.compareFloat a.toFloat (← (Number.readFloat b).toOption)
  | string a, number b => do Number.compareFloat (← (Number.readFloat a).toOption) b.toFloat
  | string a, string b => some (Ord.compare a b)
  | bool a, bool b => some (Ord.compare a b)
  | bool a, string b => (truth? b).map (Ord.compare a)
  | string a, bool b => (truth? a).map (Ord.compare · b)
  | null, null => some .eq
  | _, _ => none

/-- The text of a scalar, in which substrings and globs are sought. -/
def scalarText? : Json → Option String
  | string s => some s
  | number n => some n.text
  | bool b => some (if b then "true" else "false")
  | _ => none

/-- Whether one text stands somewhere inside another. -/
def occursIn (needle : List Char) : List Char → Bool
  | [] => needle.isEmpty
  | c :: text => needle.isPrefixOf (c :: text) || occursIn needle text

/-- Whether the text of a value contains that of another, in lower case. -/
def contains (value part : Json) : Bool :=
  match value.scalarText?, part.scalarText? with
  | some text, some needle => occursIn (Text.lowercase needle).toList (Text.lowercase text).toList
  | _, _ => false

end Json

/-- Whether an operator that compares holds of an order. -/
def Operator.admits : Operator → Ordering → Bool
  | .gt, o => o.isGT
  | .gte, o => o.isGE
  | .lt, o => o.isLT
  | .lte, o => o.isLE
  | .eq, o => o.isEq
  | _, o => o.isNe

/-- Whether an operator holds between two values. Values that cannot be compared are unequal, and
in no order. -/
def Operator.holds (op : Operator) (value operand : Json) : Bool :=
  match op with
  | .fuzz => value.contains operand
  | .nfuzz => !value.contains operand
  | op => ((value.order? operand).map op.admits).getD (op == .neq)

end SearchQuery
