import SearchQuery.Text.LetterCase

/-!
# ULIDs

A ULID is 26 characters of Crockford's base 32 alphabet, which leaves out I, L, O and U. Letters
are read without regard to case, and so are the two characters that fold to one of them; ASCII
letters are written in upper case.
-/

namespace SearchQuery.Ulid

/-- The digits of Crockford's base 32. -/
def alphabet : List Char := "0123456789ABCDEFGHJKMNPQRSTVWXYZ".toList

/-- Whether a character is a base 32 digit up to letter case. -/
def isDigit (c : Char) : Bool := alphabet.any (Text.sameLetter c)

/-- The canonical text of a ULID. -/
def read? (text : String) : Option String :=
  if text.toList.length = 26 && text.toList.all isDigit then some (Text.asciiUppercase text)
  else none

end SearchQuery.Ulid
