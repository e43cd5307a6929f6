import SearchQuery.Number.Digits
import SearchQuery.Text.Escape

/-!
# UUIDs

A UUID is read from 32 hexadecimal digits in either case, bare or in groups of 8, 4, 4, 4 and 12
between hyphens; the grouped form may stand in braces or after `urn:uuid:`, itself in either case.
It is written in lower-case groups. A text that is none of these is examined for its first fault.
-/

namespace SearchQuery

/-- A universally unique identifier: 128 bits. -/
structure Uuid where
  value : BitVec 128
deriving DecidableEq

/-- Why a text is not a UUID. -/
inductive UuidError where
  /-- The number of bytes is out of range, or no group is marked. -/
  | length (found : Nat)
  /-- A character that no UUID holds, at a byte index. -/
  | character (c : Char) (index : Nat)
  | groupCount (found : Nat)
  | groupLength (group expected found : Nat)
deriving DecidableEq

/-- The error as it is reported. -/
def UuidError.message : UuidError → String
  | .length found => "invalid length: found " ++ Number.digits found
  | .character c index =>
    "invalid character: found `" ++ c.toString ++ "` at " ++ Number.digits index
  | .groupCount found => "invalid group count: expected 5, found " ++ Number.digits found
  | .groupLength group expected found =>
    "invalid group length in group " ++ Number.digits group ++ ": expected " ++
      Number.digits expected ++ ", found " ++ Number.digits found

namespace Uuid

/-! ## Writing -/

/-- The hexadecimal digit of a value below 16, in lower case. -/
def hexDigit (n : Nat) : Char := if n < 10 then Char.ofNat (48 + n) else Char.ofNat (87 + n)

/-- The last `width` hexadecimal digits of a number. -/
def hexDigits : (width n : Nat) → List Char
  | 0, _ => []
  | width + 1, n => hexDigits width (n / 16) ++ [hexDigit (n % 16)]

/-- Cuts a list into groups of given lengths. -/
def cut : List Nat → List Char → List (List Char)
  | [], _ => []
  | n :: lengths, text => text.take n :: cut lengths (text.drop n)

/-- The lengths of the groups. -/
def groupLengths : List Nat := [8, 4, 4, 4, 12]

/-- The UUID in groups of lower-case digits. -/
def text (u : Uuid) : String :=
  "-".intercalate ((cut groupLengths (hexDigits 32 u.value.toNat)).map String.ofList)

/-! ## Reading -/

/-- The UUID with given hexadecimal digits. -/
def ofHex? (digits : List Char) : Option Uuid :=
  (Text.Escape.hexValue? digits).map fun n => ⟨BitVec.ofNat 128 n⟩

/-- Reads the groups between hyphens. -/
def ofGroups? (text : List Char) : Option Uuid :=
  let groups := text.splitOn '-'
  if groups.map List.length = groupLengths then ofHex? groups.flatten else none

/-- What stands before a URN's identifier, up to ASCII letter case. -/
def urnLead : List Char := "urn:uuid:".toList

/-- The text after `urn:uuid:`, which may be in either case. -/
def afterUrn? (text : List Char) : Option (List Char) :=
  if (text.take urnLead.length).map Char.toLower = urnLead then some (text.drop urnLead.length)
  else none

/-- The text between braces. -/
def insideBraces? : List Char → Option (List Char)
  | '\x7b' :: rest => if rest.getLast? = some '\x7d' then some rest.dropLast else none
  | _ => none

/-- Reads any of the forms of a UUID. -/
def read? (text : List Char) : Option Uuid :=
  if text.length = 32 then ofHex? text
  else if text.length = 36 then ofGroups? text
  else if text.length = 38 then (insideBraces? text).bind ofGroups?
  else (afterUrn? text).bind ofGroups?

/-- The first character that a UUID cannot hold, with its byte index. -/
def firstBad? (index : Nat) : List Char → Option (Char × Nat)
  | [] => none
  | c :: rest =>
    if c = '-' || (Text.Escape.hexDigit? c).isSome then firstBad? (index + c.utf8Size) rest
    else some (c, index)

/-- The first of the groups, counted from `index`, whose length is not the expected one. -/
def firstShort? (index : Nat) : List Nat → List (List Char) → Option UuidError
  | expected :: lengths, group :: groups =>
    if group.length = expected then firstShort? (index + 1) lengths groups
    else some (.groupLength index expected group.length)
  | _, _ => none

/-- The fault of a text of `size` bytes in all, whose part `text` starts at byte `offset`. A plain
text is one without braces or prefix, which might have done without hyphens. -/
def fault (size offset : Nat) (plain : Bool) (text : List Char) : UuidError :=
  match firstBad? offset text with
  | some (c, index) => .character c index
  | none =>
    let groups := text.splitOn '-'
    if plain && groups.length = 1 then .length size
    else if groups.length ≠ 5 then .groupCount groups.length
    else (firstShort? 0 (groupLengths.take 4) groups).getD (.groupLength 4 12 (size - 24))

/-- The fault of a text that is not a UUID. A text as long as a form of its own is judged as that
form: its groups are examined apart from what surrounds them. -/
def diagnose (size : Nat) (text : List Char) : UuidError :=
  let inner := if size = 36 then some text
    else if size = 38 then insideBraces? text
    else if size = 45 then afterUrn? text
    else none
  if size = 0 || 45 < size then .length size
  else
    match inner, insideBraces? text, afterUrn? text with
    | some groups, _, _ => fault size 0 false groups
    | none, some groups, _ => fault size 1 false groups
    | none, none, some groups => fault size urnLead.length false groups
    | none, none, none => fault size 0 true text

/-- Reads a UUID. -/
def read (text : String) : Except UuidError Uuid :=
  match read? text.toList with
  | some u => .ok u
  | none => .error (diagnose text.utf8ByteSize text.toList)

end Uuid

end SearchQuery
