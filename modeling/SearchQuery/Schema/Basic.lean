import SearchQuery.Item.Basic
import SearchQuery.Text.EditDistance
import SearchQuery.Text.LetterCase

/-!
# Schemas

A schema lists the keys that queries may use. Each key names the field that it reads, and a rule by
which the literals of its values are cast. Keys are kept in order, each once.
-/

namespace SearchQuery

/-- The types of dates and times. -/
inductive TemporalKind where
  | date | time | localDateTime | utcDateTime
deriving DecidableEq

/-- The declared type of a field. -/
inductive Kind where
  | binaryId | uuid | ulid | boolean | integer | float | decimal | atom | string
  | temporal (kind : TemporalKind)
deriving DecidableEq

/-- The type as schemas name it. -/
def TemporalKind.name : TemporalKind → String
  | .date => "date"
  | .time => "time"
  | .localDateTime => "naive_datetime"
  | .utcDateTime => "utc_datetime"

namespace Kind

/-- Every type, in the order in which schemas list them. -/
def all : List Kind :=
  [.binaryId, .uuid, .ulid, .boolean, .integer, .float, .decimal, .atom, .string, .temporal .date,
    .temporal .time, .temporal .localDateTime, .temporal .utcDateTime]

/-- The type as schemas name it. -/
def name : Kind → String
  | binaryId => "binary_id"
  | uuid => "uuid"
  | ulid => "ulid"
  | boolean => "boolean"
  | integer => "integer"
  | float => "float"
  | decimal => "decimal"
  | atom => "atom"
  | string => "string"
  | temporal kind => kind.name

/-- The type with a given name. -/
def ofName? (name : String) : Option Kind := all.find? (·.name == name)

/-- The type of dates or times that it is. -/
def temporal? : Kind → Option TemporalKind
  | temporal kind => some kind
  | _ => none

/-- Whether values of the type can be matched against patterns. -/
def acceptsPatterns : Kind → Bool
  | string | atom => true
  | _ => false

end Kind

/-- A closed set of symbolic values. -/
structure Enumeration where
  name : String
  values : List String
deriving DecidableEq

/-- The value that a text names: the same text if there is one, and else the first that differs in
ASCII letter case alone. -/
def Enumeration.cast? (e : Enumeration) (raw : String) : Option String :=
  e.values.find? (· == raw) <|>
    e.values.find? fun v => Text.asciiLowercase v == Text.asciiLowercase raw

/-- How the values of a field are cast. -/
inductive FieldRule where
  | type (kind : Kind)
  | enumeration (e : Enumeration)
  /-- By a rule of the caller's own, which gets the whole value of a pair and the present time. -/
  | custom (cast : Item → DateTime → Except String Item)

/-- The type that a rule declares. -/
def FieldRule.kind? : FieldRule → Option Kind
  | .type kind => some kind
  | _ => none

/-- What a key stands for. -/
structure FieldSpec where
  /-- The field that the key reads. -/
  source : String
  rule : FieldRule

/-- The keys that queries may use, in order. -/
structure Schema where
  fields : List (String × FieldSpec)

namespace Schema

/-- No keys at all. -/
def empty : Schema := ⟨[]⟩

/-- Fields in the order of their keys with one more, which replaces another of its key. -/
def insertField (key : String) (spec : FieldSpec) :
    List (String × FieldSpec) → List (String × FieldSpec)
  | [] => [(key, spec)]
  | (k, s) :: rest =>
    if key < k then (key, spec) :: (k, s) :: rest
    else if key = k then (key, spec) :: rest
    else (k, s) :: insertField key spec rest

/-- The schema with one more key. -/
def insert (schema : Schema) (key : String) (spec : FieldSpec) : Schema :=
  ⟨insertField key spec schema.fields⟩

/-- What a key stands for. -/
def lookup? (schema : Schema) (key : String) : Option FieldSpec :=
  (schema.fields.find? (·.1 == key)).map (·.2)

/-- What the first key that reads a field stands for. -/
def bySource? (schema : Schema) (source : String) : Option FieldSpec :=
  (schema.fields.find? (·.2.source == source)).map (·.2)

/-- The keys, in order. -/
def keys (schema : Schema) : List String := schema.fields.map (·.1)

/-- Up to three known keys close to a given one, the closest first. Letter case does not count, and
a third of the characters may differ, or two of a short key. -/
def suggest (schema : Schema) (key : String) : List String :=
  let limit := max 2 (key.toList.length / 3)
  let lowered := Text.lowercase key
  let scored := schema.keys.map fun known =>
    (Text.editDistance lowered (Text.lowercase known), known)
  let close := scored.filter fun (distance, _) => distance ≤ limit
  ((close.mergeSort fun a b => a.1 ≤ b.1).take 3).map (·.2)

end Schema

end SearchQuery
