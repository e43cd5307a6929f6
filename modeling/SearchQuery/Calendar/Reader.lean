import SearchQuery.Calendar.DateTime

/-!
# Reading dates and times

Full dates and times are read field by field from fixed layouts. A number may have blanks before
it and fewer digits than its field is wide; a year may have a sign, and then any number of digits.
Where a layout has a blank, any number of blanks will do. A moment in the RFC 3339 layout has all
its digits and an offset from universal time.
-/

namespace SearchQuery.Calendar

/-- White space, line breaks included. -/
def isWhiteSpace (c : Char) : Bool :=
  let n := c.toNat
  (9 ≤ n && n ≤ 13) || n = 0x20 || n = 0x85 || n = 0xA0 || n = 0x1680 ||
    (0x2000 ≤ n && n ≤ 0x200A) || n = 0x2028 || n = 0x2029 || n = 0x202F || n = 0x205F || n = 0x3000

/-- The text after the blanks at its front. -/
def skipBlanks (text : List Char) : List Char := text.dropWhile isWhiteSpace

/-- A number of one to `width` digits, and the text after it. -/
def number? (width : Nat) (text : List Char) : Option (Nat × List Char) :=
  let digits := (text.take width).takeWhile Number.isDigit
  if digits.isEmpty then none else some (Number.ofDigits 0 digits, text.drop digits.length)

/-- A number of one to `width` digits after blanks. -/
def field? (width : Nat) (text : List Char) : Option (Nat × List Char) :=
  number? width (skipBlanks text)

/-- A year after blanks: up to four digits, or a sign and any number of digits. -/
def year? (text : List Char) : Option (Int × List Char) :=
  match skipBlanks text with
  | '-' :: rest => (number? rest.length rest).map fun (n, rest) => (-(n : Int), rest)
  | '+' :: rest => (number? rest.length rest).map fun (n, rest) => ((n : Int), rest)
  | text => (number? 4 text).map fun (n, rest) => ((n : Int), rest)

/-- The text after a given character. -/
def literal? (c : Char) : List Char → Option (List Char)
  | d :: rest => if c = d then some rest else none
  | [] => none

/-- Nanoseconds after a point, digits past the ninth dropped; zero where there is no point. -/
def fraction? (text : List Char) : Option (Nat × List Char) :=
  match text with
  | '.' :: rest =>
    (number? 9 rest).map fun (n, after) =>
      (n * Nat.pow 10 (9 - (rest.length - after.length)), after.dropWhile Number.isDigit)
  | _ => some (0, text)

/-- A date in the layout `Y-M-D`, and the text after it. -/
def date? (text : List Char) : Option (Date × List Char) := do
  let (year, rest) ← year? text
  let (month, rest) ← field? 2 (← literal? '-' rest)
  let (day, rest) ← field? 2 (← literal? '-' rest)
  return (← Date.ofYmd? year month day, rest)

/-- A time in the layout `H:M:S`, with or without a fraction, and the text after it. -/
def time? (text : List Char) : Option (Time × List Char) := do
  let (hour, rest) ← field? 2 text
  let (minute, rest) ← field? 2 (← literal? ':' rest)
  let (second, rest) ← field? 2 (← literal? ':' rest)
  let (nano, rest) ← fraction? rest
  return (← Time.ofHms? hour minute second nano, rest)

/-- A value that takes up its whole text. -/
def whole? {α : Type} : Option (α × List Char) → Option α
  | some (a, []) => some a
  | _ => none

/-- Reads a full date. -/
def readDate? (text : String) : Option Date := whole? (date? text.toList)

/-- Reads a full time of day. -/
def readTime? (text : String) : Option Time := whole? (time? text.toList)

/-- Reads a date and a time with a `T` or blanks between them. -/
def readLocal? (text : String) : Option DateTime := do
  let (date, rest) ← date? text.toList
  let rest := match rest with
    | 'T' :: rest => rest
    | rest => skipBlanks rest
  let time ← whole? (time? rest)
  return ⟨date, time⟩

/-! ## RFC 3339 -/

/-- A number of exactly `width` digits. -/
def fixedWidth? (width : Nat) (text : List Char) : Option (Nat × List Char) :=
  let digits := text.take width
  if digits.length = width && digits.all Number.isDigit then
    some (Number.ofDigits 0 digits, text.drop width)
  else none

/-- The minutes between `+HH:MM` or `-HH:MM` and universal time. -/
def signedOffset? (negative : Bool) (text : List Char) : Option Int := do
  let (hours, rest) ← fixedWidth? 2 text
  let minutes ← whole? (fixedWidth? 2 (← literal? ':' rest))
  if hours < 24 && minutes < 60 then
    let offset : Int := (60 * hours + minutes : Nat)
    return if negative then -offset else offset
  else none

/-- The offset at the end of a moment, in minutes. -/
def offset? : List Char → Option Int
  | ['Z'] | ['z'] => some 0
  | '+' :: rest => signedOffset? false rest
  | '-' :: rest => signedOffset? true rest
  | '\u2212' :: rest => signedOffset? true rest
  | _ => none

/-- Reads a moment with its offset, in universal time. -/
def readRfc3339? (text : String) : Option DateTime := do
  let (year, rest) ← fixedWidth? 4 text.toList
  let (month, rest) ← fixedWidth? 2 (← literal? '-' rest)
  let (day, rest) ← fixedWidth? 2 (← literal? '-' rest)
  let rest ← match rest with
    | c :: rest => if c = 'T' || c = 't' || c = ' ' then some rest else none
    | [] => none
  let (hour, rest) ← fixedWidth? 2 rest
  let (minute, rest) ← fixedWidth? 2 (← literal? ':' rest)
  let (second, rest) ← fixedWidth? 2 (← literal? ':' rest)
  let (nano, rest) ← fraction? rest
  let offset ← offset? rest
  let date ← Date.ofYmd? year month day
  let time ← Time.ofHms? hour minute second nano
  DateTime.subOffset? ⟨date, time⟩ offset

/-- Reads a moment: with its offset, or without one as universal time. -/
def readMoment? (text : String) : Option DateTime := readRfc3339? text <|> readLocal? text

end SearchQuery.Calendar
