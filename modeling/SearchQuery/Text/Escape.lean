import SearchQuery.Text.CharClass

/-!
# Quoted text

Between double quotes a backslash introduces an escape. `Escape.encode` writes a text so that
it can stand between quotes, and `Escape.readQuote` reads one back:

* a letter of `Escape.control` names a control character or a blank, and any other character
  stands for itself;
* `\u` with one to six hexadecimal digits in braces names a code point, and `\u` with exactly
  four names a UTF-16 code unit, where a high surrogate needs a low one after it.

Readers work on the characters that are left and report how many they have used.
-/

namespace SearchQuery.Text.Escape

/-! ## Writing -/

/-- The value of a hexadecimal digit, in either case. -/
def hexDigit? (c : Char) : Option Nat :=
  if '0' ≤ c && c ≤ '9' then some (c.toNat - 48)
  else if 'a' ≤ c && c ≤ 'f' then some (c.toNat - 87)
  else if 'A' ≤ c && c ≤ 'F' then some (c.toNat - 55)
  else none

/-- The hexadecimal digit of a value below 16, in capitals. -/
def upperHexDigit (n : Nat) : Char := if n < 10 then Char.ofNat (48 + n) else Char.ofNat (55 + n)

/-- A code unit in four hexadecimal digits. -/
def fourHexDigits (n : Nat) : List Char :=
  [n / 4096 % 16, n / 256 % 16, n / 16 % 16, n % 16].map upperHexDigit

/-- One character as it is written between quotes. A dot is escaped although it need not be. -/
def encodeChar (c : Char) : List Char :=
  if c = '\\' then ['\\', '\\']
  else if c = '"' then ['\\', '"']
  else if c = '.' then ['\\', '.']
  else if c = '\n' then ['\\', 'n']
  else if c = '\r' then ['\\', 'r']
  else if isLineBreak c then '\\' :: 'u' :: fourHexDigits c.toNat
  else [c]

/-- A text as it is written between quotes. -/
def encode (s : String) : String := String.ofList (s.toList.flatMap encodeChar)

/-- A text in quotes. -/
def quote (s : String) : String := "\"" ++ encode s ++ "\""

/-! ## Reading -/

/-- The character that a backslash and a letter other than `u` stand for. -/
def control : Char → Char
  | '0' => '\x00'
  | 'n' => '\n'
  | 'f' => '\x0c'
  | 'b' => '\x08'
  | 'r' => '\r'
  | 't' => '\t'
  | 'v' => '\x0b'
  | 's' => ' '
  | c => c

/-- What a reader of code point escapes found: a value and the number of characters used, or the
number of characters read before it could go no further. -/
inductive Code where
  | value (n : Nat) (used : Nat)
  | stuck (used : Nat)
deriving DecidableEq

/-- The value of hexadecimal digits, most significant first. -/
def hexValue? : List Char → Option Nat :=
  List.foldl (fun acc c => do return 16 * (← acc) + (← hexDigit? c)) (some 0)

/-- Exactly four hexadecimal digits. -/
def fourDigits (text : List Char) : Code :=
  let digits := (text.take 4).takeWhile fun c => (hexDigit? c).isSome
  match hexValue? digits with
  | some n => if digits.length = 4 then .value n 4 else .stuck digits.length
  | none => .stuck digits.length

/-- Hexadecimal digits after an optional plus sign. -/
def signedHexValue? : List Char → Option Nat
  | ['+'] => none
  | '+' :: digits => hexValue? digits
  | digits => hexValue? digits

/-- A number in braces; `text` starts after the opening brace. What stands between the braces is
one to six bytes in UTF-8, or it is not looked at. -/
def braced (text : List Char) : Code :=
  let digits := text.takeWhile (· ≠ '\x7d')
  let n := digits.length
  if n = text.length || n = 0 || 6 < (String.ofList digits).utf8ByteSize then .stuck n
  else
    match signedHexValue? digits with
    | some value => .value value (n + 1)
    | none => .stuck (n + 1)

/-- A high surrogate, the first half of a pair. -/
def isHighSurrogate (n : Nat) : Bool := 0xD800 ≤ n && n < 0xDC00

/-- A low surrogate, the second half of a pair. -/
def isLowSurrogate (n : Nat) : Bool := 0xDC00 ≤ n && n < 0xE000

/-- The code point of a surrogate pair. -/
def joinSurrogates (high low : Nat) : Nat := 0x10000 + (high - 0xD800) * 0x400 + (low - 0xDC00)

/-- The code point after `\u`: in braces, as four digits, or as two escapes of a pair. -/
def codePoint (text : List Char) : Code :=
  match text with
  | '\x7b' :: rest =>
    match braced rest with
    | .value n used => .value n (used + 1)
    | .stuck used => .stuck (used + 1)
  | _ =>
    match fourDigits text with
    | .stuck used => .stuck used
    | .value high _ =>
      if isHighSurrogate high then
        match text.drop 4 with
        | '\\' :: 'u' :: rest =>
          match fourDigits rest with
          | .stuck used => .stuck (used + 6)
          | .value low _ =>
            if isLowSurrogate low then .value (joinSurrogates high low) 10 else .stuck 10
        | _ => .stuck 4
      else .value high 4

/-- The character with code point `n`, unless `n` is a surrogate or too large. -/
def scalar? (n : Nat) : Option Char := if n.isValidChar then some (Char.ofNat n) else none

/-- How a quoted text ends, with the characters used since its opening quote. -/
inductive Quote where
  /-- The closing quote was found. -/
  | closed (text : List Char) (used : Nat)
  /-- The text ends before the closing quote; the last backslash may lack its character. -/
  | unterminated (text : List Char) (used : Nat)
  /-- The escape whose backslash stands after `start` characters is not a code point. -/
  | badCode (start used : Nat)
deriving DecidableEq

/-- The rest of a quoted text after one more character `c`, which took `n` characters to write. -/
def Quote.push (c : Char) (n : Nat) : Quote → Quote
  | .closed text used => .closed (c :: text) (n + used)
  | .unterminated text used => .unterminated (c :: text) (n + used)
  | .badCode start used => .badCode (n + start) (n + used)

/-- Reads a quoted text from the character after its opening quote. -/
def readQuote : List Char → Quote
  | [] => .unterminated [] 0
  | '"' :: _ => .closed [] 1
  | ['\\'] => .unterminated [] 1
  | '\\' :: 'u' :: rest =>
    match codePoint rest with
    | .stuck used => .badCode 0 (used + 2)
    | .value n used =>
      match scalar? n with
      | none => .badCode 0 (used + 2)
      | some c => (readQuote (rest.drop used)).push c (used + 2)
  | '\\' :: c :: rest => (readQuote rest).push (control c) 2
  | c :: rest => (readQuote rest).push c 1
termination_by text => text.length
decreasing_by all_goals simp; try omega

end SearchQuery.Text.Escape
