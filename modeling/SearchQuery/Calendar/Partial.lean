import SearchQuery.Calendar.Reader

/-!
# Truncated dates and times

A date or time that stops after some component names the span of all moments that agree with it:
`2020` is the whole year. `resolve` gives the first or the last moment of the span, to the
microsecond.
-/

namespace SearchQuery

/-- An end of a span. -/
inductive Bound where
  | first | last
deriving DecidableEq

/-- A year, with or without a month. -/
structure PartialDate where
  year : Int
  month : Option Nat
deriving DecidableEq

/-- An hour, with or without a minute. -/
structure PartialTime where
  hour : Nat
  minute : Option Nat
deriving DecidableEq

/-- A moment cut off anywhere after the year. -/
structure PartialDateTime where
  year : Int
  month : Option Nat
  day : Option Nat
  hour : Option Nat
  minute : Option Nat
deriving DecidableEq

/-- A component after its mark, if there is one. -/
def componentText (mark : String) : Option Nat → String
  | some n => mark ++ Number.padded 2 n
  | none => ""

/-- A year in at least four characters, its minus sign included. -/
def shortYearText (year : Int) : String :=
  if year < 0 then "-" ++ Number.padded 3 year.natAbs else Number.padded 4 year.natAbs

/-- Reads an optional two-digit component after one of the marks. A text that goes on without a
mark is refused. -/
def readComponent? (marks : List Char) : List Char → Option (Option Nat × List Char)
  | [] => some (none, [])
  | c :: rest =>
    if c ∈ marks then (Calendar.fixedWidth? 2 rest).map fun (n, rest) => (some n, rest) else none

namespace PartialDate

/-- The first or last day of the year or month. The last is the day before the next one starts. -/
def resolve (p : PartialDate) (bound : Bound) : Option Date := do
  let first ← Date.ofYmd? p.year (p.month.getD 1) 1
  match bound with
  | .first => return first
  | .last => (← first.addMonths? (if p.month.isSome then 1 else 12)).pred?

/-- The partial date with given components, if its span starts on a day. -/
def ofComponents? (year : Int) (month : Option Nat) : Option PartialDate :=
  let p : PartialDate := ⟨year, month⟩
  if (p.resolve .first).isSome then some p else none

/-- The partial date as `YYYY` or `YYYY-MM`. -/
def text (p : PartialDate) : String := shortYearText p.year ++ componentText "-" p.month

/-- Reads a partial date. -/
def read? (text : String) : Option PartialDate := do
  let (year, rest) ← Calendar.fixedWidth? 4 text.toList
  let month ← Calendar.whole? (readComponent? ['-'] rest)
  ofComponents? year month

end PartialDate

namespace PartialTime

/-- The first or last microsecond of the hour or minute. -/
def resolve (p : PartialTime) : Bound → Option Time
  | .first => Time.ofHms? p.hour (p.minute.getD 0) 0 0
  | .last => Time.ofHms? p.hour (p.minute.getD 59) 59 999999000

/-- The partial time with given components, if its span starts within the day. -/
def ofComponents? (hour : Nat) (minute : Option Nat) : Option PartialTime :=
  let p : PartialTime := ⟨hour, minute⟩
  if (p.resolve .first).isSome then some p else none

/-- The partial time as `HH` or `HH:MM`. -/
def text (p : PartialTime) : String := Number.padded 2 p.hour ++ componentText ":" p.minute

/-- Reads a partial time. -/
def read? (text : String) : Option PartialTime := do
  let (hour, rest) ← Calendar.fixedWidth? 2 text.toList
  let minute ← Calendar.whole? (readComponent? [':'] rest)
  ofComponents? hour minute

end PartialTime

namespace PartialDateTime

/-- The first or last microsecond of the span. -/
def resolve (p : PartialDateTime) (bound : Bound) : Option DateTime := do
  let date ← match p.day with
    | some day => Date.ofYmd? p.year (← p.month) day
    | none => (⟨p.year, p.month⟩ : PartialDate).resolve bound
  let time ← match p.hour, bound with
    | some hour, bound => (⟨hour, p.minute⟩ : PartialTime).resolve bound
    | none, .first => some .midnight
    | none, .last => some .lastMicrosecond
  return ⟨date, time⟩

/-- No component is given without those before it. -/
def ordered (p : PartialDateTime) : Bool :=
  (p.month.isSome || p.day.isNone) && (p.day.isSome || p.hour.isNone) &&
    (p.hour.isSome || p.minute.isNone)

/-- The partial moment with given components, if they leave no gap and its span has a start. -/
def ofComponents? (year : Int) (month day hour minute : Option Nat) : Option PartialDateTime :=
  let p : PartialDateTime := ⟨year, month, day, hour, minute⟩
  if p.ordered && (p.resolve .first).isSome then some p else none

/-- The partial moment as `YYYY-MM-DDTHH:MM`, as far as its components go. -/
def text (p : PartialDateTime) : String :=
  shortYearText p.year ++ componentText "-" p.month ++ componentText "-" p.day ++
    componentText "T" p.hour ++ componentText ":" p.minute

/-- Reads a partial moment; its hour may follow a blank instead of a `T`. -/
def read? (text : String) : Option PartialDateTime := do
  let (year, rest) ← Calendar.fixedWidth? 4 text.toList
  let (month, rest) ← readComponent? ['-'] rest
  let (day, rest) ← readComponent? ['-'] rest
  let (hour, rest) ← readComponent? ['T', ' '] rest
  let minute ← Calendar.whole? (readComponent? [':'] rest)
  ofComponents? year month day hour minute

end PartialDateTime

end SearchQuery
