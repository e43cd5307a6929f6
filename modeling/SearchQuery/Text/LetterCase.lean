import SearchQuery.Text.CaseTable

/-!
# Letter case

Lower and upper case of a text with the full Unicode mappings, and the simple case folding that
compares two characters without regard to case.

A capital sigma becomes a final sigma at the end of a word: a cased letter comes before it and
none after it, where characters that words may carry inside them do not count.
-/

namespace SearchQuery.Text

/-- Lower case of an ASCII letter; any other character is kept. -/
def asciiLower (c : Char) : Char :=
  if 'A' ≤ c && c ≤ 'Z' then Char.ofNat (c.toNat + 32) else c

/-- Upper case of an ASCII letter; any other character is kept. -/
def asciiUpper (c : Char) : Char :=
  if 'a' ≤ c && c ≤ 'z' then Char.ofNat (c.toNat - 32) else c

/-- A text with its ASCII letters in lower case. -/
def asciiLowercase (s : String) : String := String.ofList (s.toList.map asciiLower)

/-- A text with its ASCII letters in upper case. -/
def asciiUppercase (s : String) : String := String.ofList (s.toList.map asciiUpper)

/-- The next character that counts for the end of a word is cased. -/
def meetsCased (text : List Char) : Bool :=
  match text.dropWhile caseIgnorable.contains with
  | [] => false
  | c :: _ => cased.contains c

/-- A sigma ends its word: a cased character precedes it (`before` runs backwards) and none
follows. -/
def endsWord (before after : List Char) : Bool := meetsCased before && !meetsCased after

/-- The mapping of `c` if `long` lists one, else the one that `runs` give. -/
def mapCase (long : List (Nat × List Nat)) (runs : List CaseRun) (c : Char) : List Char :=
  match long.find? (·.1 == c.toNat) with
  | some (_, image) => image.map Char.ofNat
  | none => [shiftCase runs c]

/-- Lower case of `c` between the text `before` it (backwards) and the text `after` it. -/
def lowerChar (before : List Char) (c : Char) (after : List Char) : List Char :=
  if c.toNat < 0x80 then [asciiLower c]
  else if c = 'Σ' then [if endsWord before after then 'ς' else 'σ']
  else mapCase longLower lowerRuns c

/-- Lower case of a text that stands after `before` (backwards). -/
def lowerFrom (before : List Char) : List Char → List Char
  | [] => []
  | c :: rest => lowerChar before c rest ++ lowerFrom (c :: before) rest

/-- A text in lower case. -/
def lowercase (s : String) : String := String.ofList (lowerFrom [] s.toList)

/-- Upper case of one character. -/
def upperChar (c : Char) : List Char :=
  if c.toNat < 0x80 then [asciiUpper c] else mapCase longUpper upperRuns c

/-- A text in upper case. -/
def uppercase (s : String) : String := String.ofList (s.toList.flatMap upperChar)

/-- The character that stands for all spellings of `c` in either case. -/
def foldChar (c : Char) : Char :=
  if c.toNat < 0x80 then asciiLower c else shiftCase foldRuns c

/-- Two characters are equal up to simple case folding. -/
def sameLetter (a b : Char) : Bool := foldChar a == foldChar b

/-- All characters that are equal to `c` up to simple case folding, in order. -/
def spellings (c : Char) : List Char :=
  let folded := (foldChar c).toNat
  let others := foldRuns.filterMap (·.source? folded)
  ((folded :: others).mergeSort fun m n => m ≤ n).map Char.ofNat

end SearchQuery.Text
