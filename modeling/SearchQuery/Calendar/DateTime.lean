import SearchQuery.Calendar.Date
import SearchQuery.Calendar.Time

/-!
# Dates with a time

A date and a time of day, either local or in universal time: that is for the reader to know. Moving
by seconds leaves a leap second at once: forwards the move starts from the second before it,
backwards from the second after it, and a move by nothing stays inside.
-/

namespace SearchQuery

/-- A date and a time of day. -/
structure DateTime where
  date : Date
  time : Time
deriving DecidableEq

namespace DateTime

/-- The first moment of the day. -/
def startOfDay (t : DateTime) : DateTime := { t with time := .midnight }

/-- The second of the day from which a move by `seconds` starts. -/
def moveStart (t : Time) (seconds : Int) : Nat :=
  if t.inLeapSecond && 0 < seconds then t.secondOfDay - 1 else t.secondOfDay

/-- The moment some seconds later. -/
def addSeconds? (t : DateTime) (seconds : Int) : Option DateTime :=
  if seconds = 0 then some t
  else
    let target := moveStart t.time seconds + seconds
    let date := t.date.addDays? (target / 86400)
    let time := Time.ofSecondOfDay? (target % 86400).toNat t.time.nano
    match date, time with
    | some date, some time => some ⟨date, time⟩
    | _, _ => none

/-- The moment some months later, at the same time of day. -/
def addMonths? (t : DateTime) (months : Int) : Option DateTime :=
  (t.date.addMonths? months).map fun date => { t with date := date }

/-- A local time in universal time, `offset` minutes to the west of it. A leap second stays one. -/
def subOffset? (t : DateTime) (offset : Int) : Option DateTime :=
  let minutes := 60 * t.time.hour + t.time.minute - offset
  let minute := (minutes % 1440).toNat
  let date := t.date.addDays? (minutes / 1440)
  let time := Time.ofHms? (minute / 60) (minute % 60) t.time.second t.time.nano
  match date, time with
  | some date, some time => some ⟨date, time⟩
  | _, _ => none

/-- Date and time with a `T` between them. -/
def text (t : DateTime) : String := t.date.text ++ "T" ++ t.time.text

/-- A moment of universal time, marked as such. -/
def utcText (t : DateTime) : String := t.text ++ "Z"

end DateTime

end SearchQuery
