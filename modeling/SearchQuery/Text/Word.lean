import SearchQuery.Text.CharClass
import SearchQuery.Text.LetterCase

/-!
# Bare words

A bare word is the longest run of word characters that does not run into `..`, the range sign.
Four words, in any letter case, are keywords instead. `isBareWord` says which texts are read back
as a single word with that text, so that they need no quotes.
-/

namespace SearchQuery.Text

/-- The word at the front of a text: empty if no word starts there. -/
def leadingWord : List Char → List Char
  | [] => []
  | '.' :: '.' :: _ => []
  | c :: rest => if isWordChar c then c :: leadingWord rest else []

/-- Two adjacent dots. -/
def hasRangeSign : List Char → Bool
  | '.' :: '.' :: _ => true
  | _ :: rest => hasRangeSign rest
  | [] => false

/-- The words with a meaning of their own. -/
inductive Keyword where
  | and | or | not | null
deriving DecidableEq

/-- A keyword as queries write it. -/
def Keyword.text : Keyword → String
  | .and => "AND"
  | .or => "OR"
  | .not => "NOT"
  | .null => "NULL"

/-- The keyword that a word spells, in any letter case. -/
def Keyword.ofWord? (word : String) : Option Keyword :=
  [Keyword.and, .or, .not, .null].find? (·.text == asciiUppercase word)

/-- A text that may stand in a query without quotes. -/
def isBareWord (text : String) : Bool :=
  !text.toList.isEmpty && text.toList.all isWordChar && !hasRangeSign text.toList &&
    (Keyword.ofWord? text).isNone

end SearchQuery.Text
