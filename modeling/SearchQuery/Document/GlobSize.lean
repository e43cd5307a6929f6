import SearchQuery.Document.Glob

/-!
# The size of a glob

A glob that is too large is refused. Its size is that of an automaton that reads a text backwards,
byte by byte, in UTF-8:

* each byte of a character without another letter case takes a state;
* a letter of ASCII takes a state with a way out for each spelling, and the state that these lead
  to;
* any other set of characters takes a choice between sequences of bytes, which share the states of
  the bytes that they have in common at the front, and the state that these lead to;
* a run of characters takes one more choice: to read a character or to go on.
-/

namespace SearchQuery

/-- An interval of bytes, its ends included. -/
structure ByteRange where
  low : Nat
  high : Nat
deriving DecidableEq

namespace Glob

/-! ## Sequences of bytes -/

/-- The bytes of a character, each an interval of its own. -/
def bytesOf (c : Char) : List ByteRange :=
  (String.utf8EncodeChar c).map fun b => ⟨b.toNat, b.toNat⟩

/-- Two sequences as one, if they differ in their last intervals alone and these adjoin. -/
def join? (a b : List ByteRange) : Option (List ByteRange) :=
  match a.getLast?, b.getLast? with
  | some x, some y =>
    if a.dropLast = b.dropLast && x.high + 1 = y.low then some (a.dropLast ++ [⟨x.low, y.high⟩])
    else none
  | _, _ => none

/-- Sequences with one more at their front, joined with the first of them where it can be. -/
def addSequence (a : List ByteRange) : List (List ByteRange) → List (List ByteRange)
  | [] => [a]
  | b :: rest =>
    match join? a b with
    | some joined => joined :: rest
    | none => a :: b :: rest

/-- The sequences of bytes of characters in ascending order. -/
def sequencesOf (chars : List Char) : List (List ByteRange) :=
  chars.foldr (fun c sequences => addSequence (bytesOf c) sequences) []

/-- The sequences of bytes of all characters. -/
def anySequences : List (List ByteRange) :=
  [[⟨0x00, 0x7F⟩],
    [⟨0xC2, 0xDF⟩, ⟨0x80, 0xBF⟩],
    [⟨0xE0, 0xE0⟩, ⟨0xA0, 0xBF⟩, ⟨0x80, 0xBF⟩],
    [⟨0xE1, 0xEC⟩, ⟨0x80, 0xBF⟩, ⟨0x80, 0xBF⟩],
    [⟨0xED, 0xED⟩, ⟨0x80, 0x9F⟩, ⟨0x80, 0xBF⟩],
    [⟨0xEE, 0xEF⟩, ⟨0x80, 0xBF⟩, ⟨0x80, 0xBF⟩],
    [⟨0xF0, 0xF0⟩, ⟨0x90, 0xBF⟩, ⟨0x80, 0xBF⟩, ⟨0x80, 0xBF⟩],
    [⟨0xF1, 0xF3⟩, ⟨0x80, 0xBF⟩, ⟨0x80, 0xBF⟩, ⟨0x80, 0xBF⟩],
    [⟨0xF4, 0xF4⟩, ⟨0x80, 0x8F⟩, ⟨0x80, 0xBF⟩, ⟨0x80, 0xBF⟩]]

/-- The non-empty beginnings of a sequence. -/
def beginnings {α : Type} : List α → List (List α)
  | [] => []
  | a :: rest => [a] :: (beginnings rest).map (a :: ·)

/-! ## Sizes -/

/-- The bytes that a state takes. -/
def stateSize : Nat := 32

/-- The bytes that a way out of a state takes, if it is one of several that read a byte. -/
def branchSize : Nat := 8

/-- The bytes that a way out of a choice takes. -/
def choiceSize : Nat := 4

/-- The size of a set of characters. -/
def setSize (sequences : List (List ByteRange)) : Nat :=
  if sequences.all fun bytes => bytes.length = 1 then
    2 * stateSize + branchSize * sequences.length
  else
    let shared := (sequences.flatMap beginnings).eraseDups
    stateSize * (shared.length + 2) + choiceSize * sequences.length

/-- The size of the set of all characters. -/
def anySize : Nat := setSize anySequences

/-- The size of a piece. -/
def pieceSize : GlobPiece → Nat
  | .run => anySize + stateSize + 2 * choiceSize
  | .one => anySize
  | .letter c =>
    match Text.spellings c with
    | [_] => stateSize * c.utf8Size
    | chars => setSize (sequencesOf chars)

/-- The size of a glob, with a state before it, one after it and one at either end of the text. -/
def size (glob : List GlobPiece) : Nat := 4 * stateSize + glob.foldl (fun n piece => n + pieceSize piece) 0

/-- The largest size of a glob. -/
def maxSize : Nat := 10 * 1024 * 1024

end Glob

end SearchQuery
