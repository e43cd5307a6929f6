import SearchQuery.Item.Basic
import SearchQuery.Text.LetterCase

/-!
# Globs

A glob is matched against a whole text, without regard to letter case. What a text still has to
match is one of its suffixes, so a glob is read piece by piece and each piece takes the possible
suffixes to those after it. They are kept from the longest to the shortest: after `*` every suffix
of the longest one is possible.
-/

namespace SearchQuery

/-- A piece of a glob. -/
inductive GlobPiece where
  /-- Any run of characters. -/
  | run
  /-- Exactly one character. -/
  | one
  /-- A character in either letter case. -/
  | letter (c : Char)
deriving DecidableEq

namespace Glob

/-- The pieces that stand for a text. -/
def ofText (text : String) : List GlobPiece := text.toList.map .letter

mutual

/-- The pieces that an item stands for. Only markers and literals have any. -/
def ofItem : Item → List GlobPiece
  | .wildcard _ => [.run]
  | .anyChar _ => [.one]
  | .word _ text | .quote _ text => ofText text
  | .value _ v => ofText v.text
  | .pattern _ pieces => ofItems pieces
  | _ => []

/-- The pieces that several items stand for. -/
def ofItems : List Item → List GlobPiece
  | [] => []
  | item :: items => ofItem item ++ ofItems items

end

/-- The suffixes of a text, from the longest to the shortest. -/
def suffixes : List Char → List (List Char)
  | [] => [[]]
  | c :: text => (c :: text) :: suffixes text

/-- The suffix that is left after one character, if that character will do. -/
def afterChar? (accepts : Char → Bool) : List Char → Option (List Char)
  | [] => none
  | c :: text => if accepts c then some text else none

/-- The suffixes that may be left after a piece. -/
def step (left : List (List Char)) : GlobPiece → List (List Char)
  | .run => (left.head?.map suffixes).getD []
  | .one => left.filterMap (afterChar? fun _ => true)
  | .letter c => left.filterMap (afterChar? (Text.sameLetter c))

/-- Whether a glob matches a whole text. -/
def isMatch (glob : List GlobPiece) (text : List Char) : Bool :=
  (glob.foldl step [text]).any List.isEmpty

end Glob

end SearchQuery
