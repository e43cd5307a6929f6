import SearchQuery.Number.Digits

/-!
# Times of day

A time has nanoseconds and may fall into a leap second, which is second 60 of any minute.
-/

namespace SearchQuery

/-- Hour, minute, second and nanosecond name a time of day. -/
def IsTime (hour minute second nano : Nat) : Prop :=
  hour < 24 ∧ minute < 60 ∧ second ≤ 60 ∧ nano < 1000000000

instance (hour minute second nano : Nat) : Decidable (IsTime hour minute second nano) :=
  inferInstanceAs (Decidable (_ ∧ _))

/-- A time of day. -/
structure Time where
  hour : Nat
  minute : Nat
  /-- 60 in a leap second. -/
  second : Nat
  nano : Nat
  isTime : IsTime hour minute second nano
deriving DecidableEq

namespace Time

/-- The time with given components, if there is one. -/
def ofHms? (hour minute second nano : Nat) : Option Time :=
  if h : IsTime hour minute second nano then some ⟨hour, minute, second, nano, h⟩ else none

/-- The first time of the day. -/
def midnight : Time := ⟨0, 0, 0, 0, by decide⟩

/-- The last microsecond of the day. -/
def lastMicrosecond : Time := ⟨23, 59, 59, 999999000, by decide⟩

/-- Whether the time falls into a leap second. -/
def inLeapSecond (t : Time) : Bool := t.second = 60

/-- The seconds since midnight. A leap second counts like the first second after it. -/
def secondOfDay (t : Time) : Nat := 3600 * t.hour + 60 * t.minute + t.second

/-- The time at a second of the day, leap seconds apart. -/
def ofSecondOfDay? (seconds nano : Nat) : Option Time :=
  ofHms? (seconds / 3600) (seconds / 60 % 60) (seconds % 60) nano

/-- The fraction of a second: nothing, or a point and as few of 3, 6 or 9 digits as hold it. -/
def fractionText (nano : Nat) : String :=
  if nano = 0 then ""
  else if nano % 1000000 = 0 then "." ++ Number.padded 3 (nano / 1000000)
  else if nano % 1000 = 0 then "." ++ Number.padded 6 (nano / 1000)
  else "." ++ Number.padded 9 nano

/-- The time as `HH:MM:SS` and its fraction. -/
def text (t : Time) : String :=
  Number.padded 2 t.hour ++ ":" ++ Number.padded 2 t.minute ++ ":" ++ Number.padded 2 t.second ++
    fractionText t.nano

end Time

end SearchQuery
