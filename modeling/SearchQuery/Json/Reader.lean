import SearchQuery.Json.Basic
import SearchQuery.Text.Escape

/-!
# Reading JSON

Strict JSON, with arrays and objects nested at most 127 deep. A number that is no integer of 64
bits is read as a double: its first digits, as many as 64 bits hold, are taken times or over a
power of ten. A number beyond the doubles is refused, as is half of a surrogate pair.

A value that nobody asks for is passed over by `skipValue?`, which only looks at how it is written:
its numbers may be of any size, its strings may hold half of a surrogate pair, and it may be nested
to any depth.
-/

namespace SearchQuery.Json

/-- A value and the text after it. -/
abbrev Reading (α : Type) := Option (α × List Char)

/-- The blanks of JSON. -/
def isBlank (c : Char) : Bool := c = ' ' || c = '\n' || c = '\r' || c = '\t'

/-- The text after its blanks. -/
def skipBlanks (text : List Char) : List Char := text.dropWhile isBlank

/-! ## Numbers -/

/-- Digits taken into a number below `2^64`, how many there were, and the digits left. -/
def takeDigits (n : Nat) : List Char → Nat × Nat × List Char
  | [] => (n, 0, [])
  | c :: rest =>
    let next := 10 * n + (Number.digit? c).getD 0
    if next < UInt64.size then
      let (n, count, rest) := takeDigits next rest
      (n, count + 1, rest)
    else (n, 0, c :: rest)

/-- A double times a power of ten; `none` beyond the doubles. Steps are at most 308 places, and
`fuel` is enough steps for any double to reach zero. -/
def scaleByTen (x : Float) (exponent : Int) : (fuel : Nat) → Option Float
  | 0 => some 0
  | fuel + 1 =>
    let power := Float.ofScientific 1 false exponent.natAbs
    if exponent.natAbs ≤ 308 then
      if exponent < 0 then some (x / power)
      else if (x * power).isInf then none
      else some (x * power)
    else if x == 0 then some x
    else if 0 ≤ exponent then none
    else scaleByTen (x / Float.ofScientific 1 false 308) (exponent + 308) fuel

/-- A number as it is written. -/
structure NumberText where
  negative : Bool
  whole : List Char
  fraction : List Char
  exponent : Option Int

/-- The integer of a number without a fraction and an exponent, if 64 bits hold it. Negative zero
is no integer. -/
def NumberText.integer? (t : NumberText) : Option Int :=
  let n := Number.ofDigits 0 t.whole
  if !t.fraction.isEmpty || t.exponent.isSome then none
  else if t.negative then if n ≠ 0 && n ≤ Number.int64Limit then some (-(n : Int)) else none
  else if n < UInt64.size then some n else none

/-- The number as a double. -/
def NumberText.float? (t : NumberText) : Option Float :=
  let (n, _, left) := takeDigits 0 t.whole
  let (n, places, _) := takeDigits n t.fraction
  (scaleByTen (Float.ofNat n) (left.length - places + t.exponent.getD 0) 4).map fun x =>
    if t.negative then -x else x

/-- The number that a text stands for. -/
def NumberText.value? (t : NumberText) : Option JsonNumber :=
  match t.integer? with
  | some n => some (.integer n)
  | none => t.float?.map .float

/-- The fraction of a number: nothing, or a point and at least one digit. -/
def readFraction? : List Char → Reading (List Char)
  | '.' :: rest =>
    let (digits, rest) := Number.spanDigits rest
    if digits.isEmpty then none else some (digits, rest)
  | text => some ([], text)

/-- The exponent of a number: absent, or a letter, an optional sign and at least one digit. -/
def readExponent? : List Char → Reading (Option Int)
  | [] => some (none, [])
  | c :: rest =>
    if c = 'e' || c = 'E' then
      let (negative, rest) := match rest with
        | '-' :: rest => (true, rest)
        | '+' :: rest => (false, rest)
        | rest => (false, rest)
      let (digits, rest) := Number.spanDigits rest
      let n : Int := Number.ofDigits 0 digits
      if digits.isEmpty then none else some (some (if negative then -n else n), rest)
    else some (none, c :: rest)

/-- The parts of a number after its sign. No zero stands before other digits of the whole part. -/
def readUnsigned? (negative : Bool) (text : List Char) : Option (NumberText × List Char) := do
  let (whole, rest) := Number.spanDigits text
  if whole.isEmpty || (whole.head? = some '0' && whole.length ≠ 1) then none
  else
    let (fraction, rest) ← readFraction? rest
    let (exponent, rest) ← readExponent? rest
    some (⟨negative, whole, fraction, exponent⟩, rest)

/-- The parts of a number. -/
def readNumberText? : List Char → Reading NumberText
  | '-' :: rest => readUnsigned? true rest
  | text => readUnsigned? false text

/-- A number. -/
def readNumber? (text : List Char) : Option (JsonNumber × List Char) := do
  let (t, rest) ← readNumberText? text
  return (← t.value?, rest)

/-! ## Strings -/

/-- The character that a backslash and a letter stand for. -/
def escape? : Char → Option Char
  | '"' => some '"'
  | '\\' => some '\\'
  | '/' => some '/'
  | 'b' => some '\x08'
  | 'f' => some '\x0c'
  | 'n' => some '\n'
  | 'r' => some '\r'
  | 't' => some '\t'
  | _ => none

/-- The character of an escape by code units, and the number of characters it took after `\u`. -/
def unicodeEscape? (text : List Char) : Option (Char × Nat) :=
  match text with
  | '\x7b' :: _ => none
  | _ =>
    match Text.Escape.codePoint text with
    | .value n used => (Text.Escape.scalar? n).map fun c => (c, used)
    | .stuck _ => none

/-- The rest of a string after its opening quote. -/
def readStringRest? : List Char → Reading (List Char)
  | [] => none
  | '"' :: rest => some ([], rest)
  | '\\' :: 'u' :: rest =>
    match unicodeEscape? rest with
    | none => none
    | some (c, used) => (readStringRest? (rest.drop used)).map fun (text, rest) => (c :: text, rest)
  | '\\' :: c :: rest =>
    match escape? c with
    | none => none
    | some c => (readStringRest? rest).map fun (text, rest) => (c :: text, rest)
  | c :: rest =>
    if c = '\\' || c.toNat < 32 then none
    else (readStringRest? rest).map fun (text, rest) => (c :: text, rest)
termination_by text => text.length
decreasing_by all_goals simp; try omega

/-- The text after the rest of a string whose escapes only have to be well formed. -/
def skipStringRest? : List Char → Option (List Char)
  | [] => none
  | '"' :: rest => some rest
  | '\\' :: 'u' :: rest =>
    match Text.Escape.fourDigits rest with
    | .value _ used => skipStringRest? (rest.drop used)
    | .stuck _ => none
  | '\\' :: c :: rest => if (escape? c).isSome then skipStringRest? rest else none
  | c :: rest => if c = '\\' || c.toNat < 32 then none else skipStringRest? rest
termination_by text => text.length
decreasing_by all_goals simp; try omega

/-- The text after a string that is passed over. -/
def skipString? : List Char → Option (List Char)
  | '"' :: rest => skipStringRest? rest
  | _ => none

/-- A string. -/
def readString? : List Char → Reading String
  | '"' :: rest => (readStringRest? rest).map fun (text, rest) => (String.ofList text, rest)
  | _ => none

/-! ## Values -/

/-- At least one part and commas between parts, up to the closing bracket; `fuel` bounds their
count. -/
def readParts? {α : Type} (part : List Char → Reading α) (close : Char) :
    (fuel : Nat) → List Char → Reading (List α)
  | 0, _ => none
  | fuel + 1, text =>
    match part (skipBlanks text) with
    | none => none
    | some (first, rest) =>
      match skipBlanks rest with
      | [] => none
      | c :: rest =>
        if c = close then some ([first], rest)
        else if c = ',' then
          (readParts? part close fuel rest).map fun (parts, rest) => (first :: parts, rest)
        else none

/-- The parts of a container after its opening bracket. -/
def readContainer? {α : Type} (part : List Char → Reading α) (close : Char) (text : List Char) :
    Reading (List α) :=
  match skipBlanks text with
  | [] => none
  | c :: rest => if c = close then some ([], rest) else readParts? part close text.length text

/-- A member of an object, whose value is read as its key asks. -/
def readMember? (value : String → List Char → Reading Json) (text : List Char) :
    Option ((String × Json) × List Char) := do
  let (key, rest) ← readString? text
  match skipBlanks rest with
  | ':' :: rest =>
    let (json, rest) ← value key (skipBlanks rest)
    some ((key, json), rest)
  | _ => none

/-- A literal name. -/
def readName? (name : String) (json : Json) (text : List Char) : Reading Json :=
  if text.take name.length = name.toList then some (json, text.drop name.length) else none

/-- A value that starts at once, with containers nested at most `levels` deep. -/
def readValue? : (levels : Nat) → List Char → Reading Json
  | _, 'n' :: rest => readName? "null" null ('n' :: rest)
  | _, 't' :: rest => readName? "true" (bool true) ('t' :: rest)
  | _, 'f' :: rest => readName? "false" (bool false) ('f' :: rest)
  | _, '"' :: rest => (readString? ('"' :: rest)).map fun (s, rest) => (string s, rest)
  | levels + 1, '[' :: rest =>
    (readContainer? (readValue? levels) ']' rest).map fun (elements, rest) => (array elements, rest)
  | levels + 1, '\x7b' :: rest =>
    (readContainer? (readMember? fun _ => readValue? levels) '\x7d' rest).map
      fun (members, rest) => (object members, rest)
  | _, text => (readNumber? text).map fun (n, rest) => (number n, rest)

/-- A member of an object that is passed over, by a way to pass over its value. -/
def skipMember? (value : List Char → Reading Unit) (text : List Char) : Reading Unit :=
  match (skipString? text).map skipBlanks with
  | some (':' :: rest) => value (skipBlanks rest)
  | _ => none

/-- Passes over a value that starts at once; `levels` is no less than the depth of containers. -/
def skipNested? : (levels : Nat) → List Char → Reading Unit
  | levels + 1, '[' :: rest =>
    (readContainer? (skipNested? levels) ']' rest).map fun (_, rest) => ((), rest)
  | levels + 1, '\x7b' :: rest =>
    (readContainer? (skipMember? (skipNested? levels)) '\x7d' rest).map fun (_, rest) => ((), rest)
  | _, '"' :: rest => (skipStringRest? rest).map fun rest => ((), rest)
  | _, 'n' :: rest => (readName? "null" null ('n' :: rest)).map fun (_, rest) => ((), rest)
  | _, 't' :: rest => (readName? "true" null ('t' :: rest)).map fun (_, rest) => ((), rest)
  | _, 'f' :: rest => (readName? "false" null ('f' :: rest)).map fun (_, rest) => ((), rest)
  | _, text => (readNumberText? text).map fun (_, rest) => ((), rest)

/-- The text after a value that starts at once. No text has more containers than characters. -/
def skipValue? (text : List Char) : Option (List Char) :=
  (skipNested? text.length text).map (·.2)

/-- How deep arrays and objects may nest. -/
def maxNesting : Nat := 127

/-- Reads a JSON text of one value, by a way to read the value. -/
def readWith? {α : Type} (value : List Char → Reading α) (text : String) : Option α :=
  match value (skipBlanks text.toList) with
  | some (a, rest) => if (skipBlanks rest).isEmpty then some a else none
  | none => none

/-- Reads a JSON text. -/
def read? (text : String) : Option Json := readWith? (readValue? maxNesting) text

/-- Reads a JSON document: keys in order, the last of a name counts. -/
def readDocument? (text : String) : Option Json := (read? text).map canonical

end SearchQuery.Json
