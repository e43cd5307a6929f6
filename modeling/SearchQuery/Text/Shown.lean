import SearchQuery.Text.Printable

/-!
# Foreign text inside messages

A message shows text that it did not write between double quotes, with an escape for every
character that could not be told apart on the page.
-/

namespace SearchQuery.Text

/-- A number in lower-case hexadecimal digits, without leading zeros. -/
def lowerHex (n : Nat) : String := String.ofList (Nat.toDigits 16 n)

/-- One character of a shown text. -/
def shownChar (c : Char) : String :=
  if c = '"' then "\\\""
  else if c = '\\' then "\\\\"
  else if c = '\t' then "\\t"
  else if c = '\r' then "\\r"
  else if c = '\n' then "\\n"
  else if c = '\x00' then "\\0"
  else if isPrintable c then c.toString
  else "\\u\x7b" ++ lowerHex c.toNat ++ "\x7d"

/-- A text as a message shows it, in double quotes. -/
def shown (s : String) : String := "\"" ++ String.join (s.toList.map shownChar) ++ "\""

end SearchQuery.Text
