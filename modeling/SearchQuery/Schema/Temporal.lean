import SearchQuery.Calendar.Relative
import SearchQuery.Schema.Basic

/-!
# Literals of dates and times

A literal of a temporal type is a full date or time, a truncated one, or a relative moment, which
starts with `@`. The forms are tried in this order, and an error names those that were tried.
-/

namespace SearchQuery

/-- No form of a temporal type fits a text. -/
structure TemporalError where
  raw : String
  kind : TemporalKind
  /-- What is wrong with the relative moment, if the text is one. -/
  relative : Option RelativeError
deriving DecidableEq

namespace TemporalKind

/-- The name of the truncated form. -/
def partialName : TemporalKind → String
  | date => "partial_date"
  | time => "partial_time"
  | localDateTime | utcDateTime => "partial_datetime"

/-- The value of a moment. -/
def ofMoment (kind : TemporalKind) (t : DateTime) : Value :=
  match kind with
  | date => .date t.date
  | time => .time t.time
  | localDateTime => .localDateTime t
  | utcDateTime => .utcDateTime t

/-- Reads a full date or time. -/
def readFull? (kind : TemporalKind) (raw : String) : Option Value :=
  match kind with
  | date => (Calendar.readDate? raw).map .date
  | time => (Calendar.readTime? raw).map .time
  | localDateTime => (Calendar.readMoment? raw).map .localDateTime
  | utcDateTime => (Calendar.readMoment? raw).map .utcDateTime

/-- Reads a truncated date or time. -/
def readPartial? (kind : TemporalKind) (raw : String) : Option Value :=
  match kind with
  | date => (PartialDate.read? raw).map .partialDate
  | time => (PartialTime.read? raw).map .partialTime
  | localDateTime | utcDateTime => (PartialDateTime.read? raw).map .partialDateTime

/-- Reads a literal; relative moments are placed around `now`. -/
def read (kind : TemporalKind) (raw : String) (now : DateTime) : Except TemporalError Value :=
  if raw.toList.head? = some '@' then
    match Relative.resolve raw now with
    | .ok t => .ok (kind.ofMoment t)
    | .error e => .error ⟨raw, kind, some e⟩
  else ((kind.readFull? raw) <|> (kind.readPartial? raw)).elim (.error ⟨raw, kind, none⟩) .ok

end TemporalKind

namespace TemporalError

/-- The names of the forms that were tried, in order. -/
def attempted (e : TemporalError) : List String :=
  [e.kind.name, if e.relative.isSome then "keyword_datetime" else e.kind.partialName]

/-- The error as it is reported. -/
def message (e : TemporalError) : String :=
  "`" ++ e.raw ++ "` is not a valid " ++ e.kind.name ++
    " (tried " ++ ", ".intercalate e.attempted ++ ")"

end TemporalError

end SearchQuery
