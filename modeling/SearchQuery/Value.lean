import SearchQuery.Calendar.Partial
import SearchQuery.Identifier.Uuid
import SearchQuery.Number.Decimal
import SearchQuery.Operator

/-!
# Typed values

What a literal becomes once the type of its field is known. Every value has a canonical text.
-/

namespace SearchQuery

/-- A literal of a known type. -/
inductive Value where
  | boolean (b : Bool)
  | integer (n : Int64)
  | float (x : Float)
  | decimal (d : Decimal)
  | string (s : String)
  /-- A symbolic name: a variant of an enumeration, or a field that is referred to. -/
  | atom (name : String)
  | uuid (u : Uuid)
  | ulid (text : String)
  | date (d : Date)
  | time (t : Time)
  | localDateTime (t : DateTime)
  | utcDateTime (t : DateTime)
  | partialDate (p : PartialDate)
  | partialTime (p : PartialTime)
  | partialDateTime (p : PartialDateTime)
deriving DecidableEq

namespace Value

/-- The name of the value's type. -/
def typeName : Value → String
  | boolean _ => "boolean"
  | integer _ => "integer"
  | float _ => "float"
  | decimal _ => "decimal"
  | string _ => "string"
  | atom _ => "atom"
  | uuid _ => "uuid"
  | ulid _ => "ulid"
  | date _ => "date"
  | time _ => "time"
  | localDateTime _ => "naive_datetime"
  | utcDateTime _ => "utc_datetime"
  | partialDate _ => "partial_date"
  | partialTime _ => "partial_time"
  | partialDateTime _ => "partial_datetime"

/-- Whether the value stands for a span of moments. -/
def isPartial : Value → Bool
  | partialDate _ | partialTime _ | partialDateTime _ => true
  | _ => false

/-- The canonical text of a value, without quotes. -/
def text : Value → String
  | boolean b => if b then "true" else "false"
  | integer n => Number.integerText n.toInt
  | float x => Number.floatText x
  | decimal d => d.text
  | string s | atom s | ulid s => s
  | uuid u => u.text
  | date d => d.text
  | time t => t.text
  | localDateTime t => t.text
  | utcDateTime t => t.utcText
  | partialDate p => p.text
  | partialTime p => p.text
  | partialDateTime p => p.text

/-- The first or last concrete value of a span. A concrete value is its own span, and a span beyond
the calendar has no end. -/
def resolve? (v : Value) (bound : Bound) : Option Value :=
  match v with
  | partialDate p => (p.resolve bound).map date
  | partialTime p => (p.resolve bound).map time
  | partialDateTime p => (p.resolve bound).map localDateTime
  | v => some v

end Value

/-- The bound of a span that an ordering compares with: what is after a span is after its last
moment, and what is before it is before its first. -/
def Operator.bound? : Operator → Option Bound
  | .gt | .lte => some .last
  | .gte | .lt => some .first
  | .eq | .neq | .fuzz | .nfuzz => none

end SearchQuery
