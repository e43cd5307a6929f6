import SearchQuery.Json.Printer
import SearchQuery.Json.Reader
import SearchQuery.QueryList.Basic

/-!
# Query lists as JSON

An entry is an object with `key`, `op` and `value`, of which only the value is required, or an
array of the three. Values that JSON has no form for are objects with a single member whose name
starts with `$`.
-/

namespace SearchQuery

/-! ## Writing -/

/-- An object with a single member. -/
def Json.marker (name : String) (json : Json) : Json := .object [(name, json)]

namespace QueryValue

mutual

/-- The value as JSON. -/
def toJson : QueryValue → Json
  | null => .null
  | bool b => .bool b
  | integer n => .number (.integer n.toInt)
  | float x => .ofFloat x
  | text s => .string s
  | list values => .array (toJsonAll values)
  | pattern pieces => .marker "$partial" (.array (toJsonAll pieces))
  | wildcard b => .marker "$wildcard" (.bool b)
  | anyChar b => .marker "$any_char" (.bool b)
  | infinity b => .marker "$infinity" (.bool b)
  | range start stop => .marker "$range" (.array [start.toJson, stop.toJson])
  | quote s => .marker "$quote" (.string s)
  | pin field => .marker "$pin" (.string field)
  | group values => .marker "$group" (.array (toJsonAll values))

/-- The values as JSON. -/
def toJsonAll : List QueryValue → List Json
  | [] => []
  | value :: values => value.toJson :: toJsonAll values

end

/-! ## Reading -/

/-- The number of an integer that 64 bits hold with a sign, and else a double. -/
def ofNumber : JsonNumber → QueryValue
  | .integer n =>
    if -Number.int64Limit ≤ n && n < Number.int64Limit then integer (Int64.ofInt n)
    else float (JsonNumber.integer n).toFloat
  | .float x => float x

/-- The value that a marker with a boolean stands for. -/
def ofFlag? (name : String) (b : Bool) : Option QueryValue :=
  if name = "$wildcard" then some (wildcard b)
  else if name = "$any_char" then some (anyChar b)
  else if name = "$infinity" then some (infinity b)
  else none

/-- The value that a marker with a string stands for. -/
def ofName? (name s : String) : Option QueryValue :=
  if name = "$quote" then some (quote s) else if name = "$pin" then some (pin s) else none

/-- The value that a marker with values stands for. -/
def ofList? (name : String) (values : List QueryValue) : Option QueryValue :=
  if name = "$partial" then some (pattern values)
  else if name = "$group" then some (group values)
  else if name = "$range" then
    match values with
    | [start, stop] => some (range start stop)
    | _ => none
  else none

mutual

/-- Reads a value. -/
def ofJson? : Json → Option QueryValue
  | .null => some null
  | .bool b => some (bool b)
  | .number n => some (ofNumber n)
  | .string s => some (text s)
  | .array elements => (ofJsonAll? elements).map list
  | .object [(name, .bool b)] => ofFlag? name b
  | .object [(name, .string s)] => ofName? name s
  | .object [(name, .array elements)] => (ofJsonAll? elements).bind (ofList? name)
  | .object _ => none

/-- Reads values. -/
def ofJsonAll? : List Json → Option (List QueryValue)
  | [] => some []
  | json :: rest => do return (← ofJson? json) :: (← ofJsonAll? rest)

end

end QueryValue

/-- The members of a given name. -/
def Json.membersNamed (name : String) (members : List (String × Json)) : List Json :=
  (members.filter (·.1 == name)).map (·.2)

/-- The member of a given name, null if there is none. Two of a name are refused. -/
def Json.optional? (name : String) (members : List (String × Json)) : Option Json :=
  match Json.membersNamed name members with
  | [] => some .null
  | [json] => some json
  | _ => none

namespace QueryKey

/-- The key as JSON. -/
def toJson : QueryKey → Json
  | text s => .string s
  | quote s => .marker "$quote" (.string s)

/-- Reads a key. -/
def ofJson? : Json → Option QueryKey
  | .string s => some (text s)
  | .object members =>
    match Json.membersNamed "$quote" members with
    | [.string s] => some (quote s)
    | _ => none
  | _ => none

end QueryKey

namespace QueryOp

/-- The operator as query lists name it. -/
def name : QueryOp → String
  | compare op => op.name
  | member => "in"

/-- The operator with a given name. -/
def ofName? (name : String) : Option QueryOp :=
  if name = member.name then some member else (Operator.ofName? name).map compare

/-- Reads an operator: its name, or an object that has the name as its one key, over null. -/
def ofJson? : Json → Option QueryOp
  | .string s => ofName? s
  | .object [(s, .null)] => ofName? s
  | _ => none

end QueryOp

namespace QueryItem

/-- The entry as JSON. -/
def toJson (entry : QueryItem) : Json :=
  .object ((entry.key.map fun key => ("key", key.toJson)).toList ++
    (entry.op.map fun op => ("op", .string op.name)).toList ++ [("value", entry.value.toJson)])

/-- Reads what may be null. -/
def nullable? {α : Type} (read : Json → Option α) : Json → Option (Option α)
  | .null => some none
  | json => (read json).map some

/-- Reads the three parts of an entry. -/
def ofParts? (key op value : Json) : Option QueryItem := do
  return ⟨← nullable? QueryKey.ofJson? key, ← nullable? QueryOp.ofJson? op,
    ← QueryValue.ofJson? value⟩

/-- Reads an entry. Members of other names are passed over. -/
def ofJson? : Json → Option QueryItem
  | .array [key, op, value] => ofParts? key op value
  | .object members => do
    let key ← Json.optional? "key" members
    let op ← Json.optional? "op" members
    match Json.membersNamed "value" members with
    | [value] => ofParts? key op value
    | _ => none
  | _ => none

end QueryItem

namespace QueryList

/-- The query list as JSON. -/
def toJson (list : List QueryItem) : Json := .array (list.map QueryItem.toJson)

/-- Reads a query list from a JSON value. -/
def ofJson? : Json → Option (List QueryItem)
  | .array entries => entries.mapM QueryItem.ofJson?
  | _ => none

/-- The value of a member of an entry; one that no entry has is passed over, and null. -/
def readMemberValue? (levels : Nat) (key : String) (text : List Char) : Json.Reading Json :=
  if key = "key" || key = "op" || key = "value" then Json.readValue? levels text
  else (Json.skipValue? text).map fun rest => (.null, rest)

/-- An entry as JSON, without what its members of other names hold. -/
def readItem? (levels : Nat) : List Char → Json.Reading Json
  | '\x7b' :: rest =>
    (Json.readContainer? (Json.readMember? (readMemberValue? levels)) '\x7d' rest).map
      fun (members, rest) => (.object members, rest)
  | text => Json.readValue? (levels + 1) text

/-- The entries of a query list as JSON, in an array. -/
def readItems? : List Char → Json.Reading Json
  | '[' :: rest =>
    (Json.readContainer? (readItem? (Json.maxNesting - 2)) ']' rest).map
      fun (entries, rest) => (.array entries, rest)
  | _ => none

/-- Reads a query list from JSON text. -/
def read (text : String) : Except QueryListError (List QueryItem) :=
  ((Json.readWith? readItems? text).bind ofJson?).elim (.error .json) .ok

end QueryList

end SearchQuery
