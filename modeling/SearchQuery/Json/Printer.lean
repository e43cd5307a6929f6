import SearchQuery.Json.Basic
import SearchQuery.Text.Shown

/-!
# Writing JSON

Compact JSON has no blanks. Laid-out JSON has one element or member a line, indented by two blanks
a level, and writes empty containers in one piece. Characters beyond ASCII stand as they are.
-/

namespace SearchQuery.Json

/-- One character of a JSON string. -/
def stringChar (c : Char) : String :=
  if c = '"' then "\\\""
  else if c = '\\' then "\\\\"
  else if c = '\x08' then "\\b"
  else if c = '\x0c' then "\\f"
  else if c = '\n' then "\\n"
  else if c = '\r' then "\\r"
  else if c = '\t' then "\\t"
  else if c.toNat < 16 then "\\u000" ++ Text.lowerHex c.toNat
  else if c.toNat < 32 then "\\u00" ++ Text.lowerHex c.toNat
  else c.toString

/-- A JSON string. -/
def stringText (s : String) : String := "\"" ++ String.join (s.toList.map stringChar) ++ "\""

/-- How the parts of a container are set apart. -/
structure Layout where
  /-- What stands before the first part on a level, and between a comma and the next part. -/
  newline : Nat → String
  /-- What stands between a key and its value, after the colon. -/
  afterColon : String

/-- Everything in one line. -/
def compact : Layout := ⟨fun _ => "", ""⟩

/-- One part a line. -/
def indented : Layout := ⟨fun level => "\n" ++ String.ofList (List.replicate (2 * level) ' '), " "⟩

/-- The parts of a container between its brackets, on a level of their own. -/
def enclose (layout : Layout) (level : Nat) (start stop : String) : List String → String
  | [] => start ++ stop
  | parts =>
    start ++ layout.newline (level + 1) ++ ("," ++ layout.newline (level + 1)).intercalate parts ++
      layout.newline level ++ stop

mutual

/-- A value on a level of a layout. -/
def render (layout : Layout) (level : Nat) : Json → String
  | null => "null"
  | bool b => if b then "true" else "false"
  | number n => n.text
  | string s => stringText s
  | array elements => enclose layout level "[" "]" (renderElements layout (level + 1) elements)
  | object members =>
    enclose layout level "\x7b" "\x7d" (renderMembers layout (level + 1) members)

/-- The elements of an array. -/
def renderElements (layout : Layout) (level : Nat) : List Json → List String
  | [] => []
  | element :: elements => element.render layout level :: renderElements layout level elements

/-- The members of an object. -/
def renderMembers (layout : Layout) (level : Nat) : List (String × Json) → List String
  | [] => []
  | (key, value) :: members =>
    (stringText key ++ ":" ++ layout.afterColon ++ value.render layout level) ::
      renderMembers layout level members

end

/-- A value as compact JSON. -/
def text (json : Json) : String := json.render compact 0

/-- A value as JSON with a line for each part. -/
def indentedText (json : Json) : String := json.render indented 0

end SearchQuery.Json
