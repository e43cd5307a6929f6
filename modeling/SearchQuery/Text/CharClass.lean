import SearchQuery.Text.Alphanumeric

/-!
# Character classes of query text

Every character of a query is a space, a line break, a word character, or none of these. The
classes do not overlap; operators, quotes and parentheses are in none of them.
-/

namespace SearchQuery.Text

/-- `c` lies between the code points `lo` and `hi`, both included. -/
def inRange (lo hi : Nat) (c : Char) : Bool := decide (lo ≤ c.toNat) && decide (c.toNat ≤ hi)

/-- Spaces other than line breaks: blank, tab, the two vertical controls and the Unicode spaces,
zero-width space and byte order mark included. -/
def isSpace (c : Char) : Bool :=
  c = ' ' || c = '\t' || c = '\x0b' || c = '\x0c' || c = '\u00a0' || c = '\u1680' || c = '\u180e' ||
    inRange 0x2000 0x200B c || c = '\u202f' || c = '\u205f' || c = '\u3000' || c = '\ufeff'

/-- Characters that end a line. -/
def isLineBreak (c : Char) : Bool :=
  c = '\n' || c = '\r' || c = '\u0085' || c = '\u2028' || c = '\u2029'

/-- Spaces and line breaks: what separates items. -/
def isBlank (c : Char) : Bool := isSpace c || isLineBreak c

/-- Punctuation that a bare word may hold. -/
def isWordMark (c : Char) : Bool := c = '@' || c = '-' || c = '_' || c = '.'

/-- The letters of Latin, Greek and Cyrillic and everything from U+E000 up: word characters by
their block, whether assigned or not. -/
def inWordBlock (c : Char) : Bool :=
  inRange 0x00C0 0x00D6 c || inRange 0x00D8 0x00F6 c || inRange 0x00F8 0x02AF c ||
    inRange 0x0370 0x03FF c || inRange 0x0400 0x052F c || decide (0xE000 ≤ c.toNat)

/-- Characters of a bare word. -/
def isWordChar (c : Char) : Bool :=
  if c.toNat < 0x80 then c.isAlphanum || isWordMark c
  else !isBlank c && (inWordBlock c || isAlphanumeric c)

theorem isBlank_of_isSpace {c : Char} (h : isSpace c) : isBlank c := by simp [isBlank, h]

theorem isBlank_of_isLineBreak {c : Char} (h : isLineBreak c) : isBlank c := by simp [isBlank, h]

end SearchQuery.Text
