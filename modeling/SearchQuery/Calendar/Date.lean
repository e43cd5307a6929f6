import SearchQuery.Number.Digits

/-!
# Dates

Dates of the proleptic Gregorian calendar, from the year -262143 to the year 262142. Days are
counted from 1 March of the year 0, so that a leap day is the last day of its counted year.
-/

namespace SearchQuery

/-- Every fourth year, but of the full centuries only every fourth. -/
def isLeapYear (year : Int) : Bool := year % 4 = 0 && (year % 100 ≠ 0 || year % 400 = 0)

/-- The number of days of a month. -/
def daysInMonth (year : Int) (month : Nat) : Nat :=
  if month = 2 then if isLeapYear year then 29 else 28
  else if month = 4 || month = 6 || month = 9 || month = 11 then 30
  else 31

/-- The first year of the calendar. -/
def minYear : Int := -262143

/-- The last year of the calendar. -/
def maxYear : Int := 262142

/-- Year, month and day name a day of the calendar. -/
def IsDate (year : Int) (month day : Nat) : Prop :=
  minYear ≤ year ∧ year ≤ maxYear ∧ 1 ≤ month ∧ month ≤ 12 ∧ 1 ≤ day ∧ day ≤ daysInMonth year month

instance (year : Int) (month day : Nat) : Decidable (IsDate year month day) :=
  inferInstanceAs (Decidable (_ ∧ _))

/-- A day of the calendar. -/
structure Date where
  year : Int
  month : Nat
  day : Nat
  isDate : IsDate year month day
deriving DecidableEq

namespace Date

/-- The date with given components, if there is one. -/
def ofYmd? (year : Int) (month day : Nat) : Option Date :=
  if h : IsDate year month day then some ⟨year, month, day, h⟩ else none

theorem ofYmd?_eq_some_iff {year : Int} {month day : Nat} {d : Date} :
    ofYmd? year month day = some d ↔ d.year = year ∧ d.month = month ∧ d.day = day := by
  unfold ofYmd?
  split
  · rename_i h
    constructor
    · rintro ⟨⟩
      exact ⟨rfl, rfl, rfl⟩
    · rintro ⟨rfl, rfl, rfl⟩
      rfl
  · rename_i h
    simp only [reduceCtorEq, false_iff]
    rintro ⟨rfl, rfl, rfl⟩
    exact h d.isDate

@[simp] theorem ofYmd?_self (d : Date) : ofYmd? d.year d.month d.day = some d :=
  ofYmd?_eq_some_iff.2 ⟨rfl, rfl, rfl⟩

/-! ## Counting days -/

/-- The days from 1 March to the first day of a month, when March is month 0. -/
def daysBeforeMonth (month : Int) : Int := (153 * month + 2) / 5

/-- The days from 1 March of the year 0 to 1 March of a year. -/
def daysBeforeYear (year : Int) : Int := 365 * year + year / 4 - year / 100 + year / 400

/-- The number of the day, counted from 1 March of the year 0. -/
def dayNumber (d : Date) : Int :=
  let year := if d.month ≤ 2 then d.year - 1 else d.year
  daysBeforeYear year + daysBeforeMonth ((d.month + 9) % 12 : Nat) + (d.day - 1 : Nat)

/-- The day with a given number, if the calendar reaches that far. Four centuries have 146097 days;
the last century of the four and the last year of every four are a day longer than the others. -/
def ofDayNumber? (n : Int) : Option Date :=
  let cycle := n / 146097
  let inCycle := n % 146097
  let century := min (inCycle / 36524) 3
  let inCentury := inCycle - 36524 * century
  let leap := inCentury / 1461
  let inLeap := inCentury % 1461
  let single := min (inLeap / 365) 3
  let inYear := inLeap - 365 * single
  let month := (5 * inYear + 2) / 153
  let day := inYear - daysBeforeMonth month + 1
  let year := 400 * cycle + 100 * century + 4 * leap + single
  if month < 10 then ofYmd? year (month + 3).toNat day.toNat
  else ofYmd? (year + 1) (month - 9).toNat day.toNat

/-- The date some days later. -/
def addDays? (d : Date) (n : Int) : Option Date := ofDayNumber? (d.dayNumber + n)

/-- The day before. -/
def pred? (d : Date) : Option Date :=
  if 1 < d.day then ofYmd? d.year d.month (d.day - 1)
  else if 1 < d.month then ofYmd? d.year (d.month - 1) (daysInMonth d.year (d.month - 1))
  else ofYmd? (d.year - 1) 12 31

/-- The date some months later; a day that its month does not have becomes the last one. -/
def addMonths? (d : Date) (n : Int) : Option Date :=
  let months := 12 * d.year + (d.month - 1 : Nat) + n
  let year := months / 12
  let month := (months % 12).toNat + 1
  ofYmd? year month (min d.day (daysInMonth year month))

/-! ## Writing -/

/-- A year: four digits, or a sign and at least four outside 0 … 9999. -/
def yearText (year : Int) : String :=
  if year < 0 then "-" ++ Number.padded 4 year.natAbs
  else if year ≤ 9999 then Number.padded 4 year.natAbs
  else "+" ++ Number.padded 4 year.natAbs

/-- The date as `YYYY-MM-DD`. -/
def text (d : Date) : String :=
  yearText d.year ++ "-" ++ Number.padded 2 d.month ++ "-" ++ Number.padded 2 d.day

end Date

end SearchQuery
