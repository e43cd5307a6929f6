import Mathlib.Tactic.Common
import Mathlib.Tactic.IntervalCases
import SearchQuery.Calendar.DateTime
import SearchQuery.Proofs.Calendar.Order

/-!
# Days by number

A day is found by its number and by no other (`Date.ofDayNumber?_eq_some_iff`), so a move by no time
at all leaves a moment as it is (`DateTime.subOffset?_zero`). The numbers of days are those from the
first day of the calendar to the last (`Date.exists_ofDayNumber?_iff`), in the order of time
(`Date.compare_dayNumber`).
-/

namespace SearchQuery

namespace Date

/-! ## Counted years and months -/

theorem daysBeforeYear_mono {year year' : Int} (h : year ≤ year') :
    daysBeforeYear year ≤ daysBeforeYear year' := by
  unfold daysBeforeYear
  omega

/-- A counted year has 365 days, or 366 if it ends with a leap day. -/
theorem daysBeforeYear_succ (year : Int) : daysBeforeYear (year + 1) =
    daysBeforeYear year + if isLeapYear (year + 1) then 366 else 365 := by
  unfold daysBeforeYear isLeapYear
  split <;> rename_i h <;> simp at h <;> omega

theorem daysBeforeMonth_mono {month month' : Int} (h : month ≤ month') :
    daysBeforeMonth month ≤ daysBeforeMonth month' := by
  unfold daysBeforeMonth
  omega

/-- The counted year of a day, which starts in March. -/
def marchYear (d : Date) : Int := if d.month ≤ 2 then d.year - 1 else d.year

/-- The counted month of a day, with March as month 0. -/
def marchMonth (d : Date) : Nat := (d.month + 9) % 12

theorem dayNumber_eq (d : Date) : d.dayNumber =
    daysBeforeYear d.marchYear + (daysBeforeMonth d.marchMonth + (d.day - 1 : Nat)) :=
  Int.add_assoc _ _ _

/-- The months that are over, with March as month 0, and what there is of the month. Only the leap
day is the 366th day. -/
theorem daysBeforeMonth_add_day (d : Date) :
    let inYear := daysBeforeMonth d.marchMonth + (d.day - 1 : Nat)
    inYear < daysBeforeMonth (d.marchMonth + 1) ∧ inYear ≤ 365 ∧
      (inYear = 365 → d.month = 2 ∧ isLeapYear d.year) := by
  obtain ⟨-, -, hfirst, hlast, hday, hdays⟩ := d.isDate
  unfold marchMonth
  generalize d.month = month at *
  by_cases hfebruary : month = 2
  · subst hfebruary
    rw [daysInMonth, if_pos rfl] at hdays
    simp only [daysBeforeMonth]
    split at hdays
    · rename_i hleap
      exact ⟨by omega, by omega, fun _ => ⟨trivial, hleap⟩⟩
    · exact ⟨by omega, by omega, by omega⟩
  · rw [daysInMonth, if_neg hfebruary] at hdays
    interval_cases month <;> simp [daysBeforeMonth] at hfebruary hdays ⊢ <;> omega

/-! ## Places -/

/-- A place in the count of days: in which four centuries, which century of them, which four years
of it, which year of the four, which month of the year and which day of the month. The 366th day
ends the last year of four, and of four centuries only the last. -/
structure Place where
  cycle : Int
  century : Int
  leap : Int
  single : Int
  month : Int
  day : Int
  century_range : 0 ≤ century ∧ century ≤ 3
  leap_range : 0 ≤ leap ∧ leap ≤ 24
  single_range : 0 ≤ single ∧ single ≤ 3
  month_nonneg : 0 ≤ month
  day_nonneg : 0 ≤ day
  day_lt : daysBeforeMonth month + day < daysBeforeMonth (month + 1)
  inYear_le : daysBeforeMonth month + day ≤ 365
  leapDay : daysBeforeMonth month + day = 365 → single = 3 ∧ (leap = 24 → century = 3)

namespace Place

/-- The counted year of a place. -/
def year (p : Place) : Int := 400 * p.cycle + 100 * p.century + 4 * p.leap + p.single

/-- The number of the day at a place. -/
def number (p : Place) : Int := daysBeforeYear p.year + (daysBeforeMonth p.month + p.day)

theorem daysBeforeYear_year (p : Place) : daysBeforeYear p.year =
    146097 * p.cycle + 36524 * p.century + 1461 * p.leap + 365 * p.single := by
  have hcentury := p.century_range
  have hleap := p.leap_range
  have hsingle := p.single_range
  unfold daysBeforeYear year
  omega

theorem month_le (p : Place) : p.month ≤ 11 := by
  have hyear := p.inYear_le
  have hday := p.day_nonneg
  unfold daysBeforeMonth at hyear
  omega

/-- Every number is that of a place. -/
theorem exists_number (n : Int) : ∃ p : Place, p.number = n := by
  obtain ⟨century, hcentury⟩ : ∃ c, c = min (n % 146097 / 36524) 3 := ⟨_, rfl⟩
  obtain ⟨inCentury, hinCentury⟩ : ∃ i, i = n % 146097 - 36524 * century := ⟨_, rfl⟩
  obtain ⟨inLeap, hinLeap⟩ : ∃ i, i = inCentury % 1461 := ⟨_, rfl⟩
  obtain ⟨single, hsingle⟩ : ∃ s, s = min (inLeap / 365) 3 := ⟨_, rfl⟩
  obtain ⟨inYear, hinYear⟩ : ∃ i, i = inLeap - 365 * single := ⟨_, rfl⟩
  have hcenturies : 0 ≤ century ∧ century ≤ 3 ∧ 0 ≤ inCentury ∧ inCentury ≤ 36524 ∧
      (inCentury = 36524 → century = 3) := by omega
  have hyears : 0 ≤ single ∧ single ≤ 3 ∧ 0 ≤ inYear ∧ inYear ≤ 365 ∧
      (inYear = 365 → single = 3 ∧ inLeap = 1460) := by omega
  obtain ⟨month, hmonth⟩ : ∃ m, m = (5 * inYear + 2) / 153 := ⟨_, rfl⟩
  have hmonths : daysBeforeMonth month ≤ inYear ∧ inYear < daysBeforeMonth (month + 1) := by
    unfold daysBeforeMonth
    omega
  let p : Place :=
    { cycle := n / 146097, century, leap := inCentury / 1461, single, month
      day := inYear - daysBeforeMonth month
      century_range := by omega
      leap_range := by omega
      single_range := by omega
      month_nonneg := by omega
      day_nonneg := by omega
      day_lt := by omega
      inYear_le := by omega
      leapDay := by omega }
  refine ⟨p, ?_⟩
  rw [number, daysBeforeYear_year]
  dsimp only [p]
  omega

/-- The year of the calendar, which starts with the counted month 10. -/
def calendarYear (p : Place) : Int := if p.month < 10 then p.year else p.year + 1

/-- The month of the calendar, where January is month 1. -/
def calendarMonth (p : Place) : Nat := (if p.month < 10 then p.month + 3 else p.month - 9).toNat

/-- The day at a place. -/
theorem ofDayNumber?_number (p : Place) :
    ofDayNumber? p.number = ofYmd? p.calendarYear p.calendarMonth (p.day + 1).toNat := by
  have hnumber : p.number = 146097 * p.cycle + 36524 * p.century + 1461 * p.leap +
      365 * p.single + (daysBeforeMonth p.month + p.day) := by
    rw [number, daysBeforeYear_year]
  obtain ⟨cycle, century, leap, single, month, day, hcentury, hleap, hsingle, hmonth, hday, hnext,
    hyear, hlast⟩ := p
  dsimp only [calendarYear, calendarMonth, year] at *
  have hpos : 0 ≤ daysBeforeMonth month := by unfold daysBeforeMonth; omega
  obtain ⟨inYear, hinYear⟩ : ∃ i, daysBeforeMonth month + day = i := ⟨_, rfl⟩
  have hfound : (5 * inYear + 2) / 153 = month := by
    unfold daysBeforeMonth at hinYear hnext
    omega
  have hstart : inYear - daysBeforeMonth month + 1 = day + 1 := by omega
  rw [hinYear] at hyear hlast hnumber
  rw [hnumber, ofDayNumber?]
  generalize hn : 146097 * cycle + 36524 * century + 1461 * leap + 365 * single + inYear = n
  have hcycle : n / 146097 = cycle := by omega
  have hinCycle : n % 146097 = 36524 * century + 1461 * leap + 365 * single + inYear := by omega
  rw [hcycle, hinCycle]
  have hcentury' : min ((36524 * century + 1461 * leap + 365 * single + inYear) / 36524) 3 =
      century := by omega
  rw [hcentury']
  have hinCentury : 36524 * century + 1461 * leap + 365 * single + inYear - 36524 * century =
      1461 * leap + (365 * single + inYear) := by omega
  rw [hinCentury]
  have hleap' : (1461 * leap + (365 * single + inYear)) / 1461 = leap := by omega
  have hinLeap : (1461 * leap + (365 * single + inYear)) % 1461 = 365 * single + inYear := by omega
  rw [hleap', hinLeap]
  have hsingle' : min ((365 * single + inYear) / 365) 3 = single := by omega
  rw [hsingle']
  have hrest : 365 * single + inYear - 365 * single = inYear := by omega
  simp only [hrest, hfound, hstart]
  split <;> rfl

/-- The place of a day. -/
theorem exists_dayNumber (d : Date) : ∃ p : Place, p.number = d.dayNumber ∧
    p.year = d.marchYear ∧ p.month = d.marchMonth ∧ p.day = (d.day - 1 : Nat) := by
  obtain ⟨hnext, hyear, hleapDay⟩ := daysBeforeMonth_add_day d
  obtain ⟨year, hmarch⟩ : ∃ year, year = d.marchYear := ⟨_, rfl⟩
  -- The leap day is in the year that starts two months before it, the last of the four.
  have hlast : daysBeforeMonth d.marchMonth + (d.day - 1 : Nat) = 365 →
      year % 4 = 3 ∧ (year % 100 / 4 = 24 → year % 400 / 100 = 3) := by
    intro h
    obtain ⟨hfebruary, hyear⟩ := hleapDay h
    rw [marchYear, hfebruary] at hmarch
    simp [isLeapYear] at hyear hmarch
    omega
  let p : Place :=
    { cycle := year / 400, century := year % 400 / 100, leap := year % 100 / 4, single := year % 4
      month := d.marchMonth, day := (d.day - 1 : Nat)
      century_range := by omega
      leap_range := by omega
      single_range := by omega
      month_nonneg := by omega
      day_nonneg := by omega
      day_lt := hnext
      inYear_le := hyear
      leapDay := hlast }
  have hplace : p.year = year := by
    dsimp only [p, Place.year]
    omega
  refine ⟨p, ?_, hplace.trans hmarch, rfl, rfl⟩
  rw [number, hplace, hmarch, dayNumber_eq]

end Place

/-- **Days by number.** A day is found by its number, and by no other. -/
theorem ofDayNumber?_eq_some_iff {n : Int} {d : Date} :
    ofDayNumber? n = some d ↔ d.dayNumber = n := by
  obtain ⟨-, -, hfirst, hlast, hday, -⟩ := d.isDate
  obtain ⟨q, hq, hyear, hmonth, hday'⟩ := Place.exists_dayNumber d
  constructor
  · intro h
    obtain ⟨p, rfl⟩ := Place.exists_number n
    have hrange := p.month_nonneg
    have hrange' := p.month_le
    have hday'' := p.day_nonneg
    rw [p.ofDayNumber?_number, ofYmd?_eq_some_iff, Place.calendarYear, Place.calendarMonth] at h
    have hsame : q.year = p.year ∧ q.month = p.month ∧ q.day = p.day := by
      rw [hyear, hmonth, hday', marchYear, marchMonth]
      split at h <;> split <;> omega
    rw [← hq, Place.number, hsame.1, hsame.2.1, hsame.2.2, Place.number]
  · rintro rfl
    rw [marchYear] at hyear
    rw [marchMonth] at hmonth
    rw [← hq, q.ofDayNumber?_number, ofYmd?_eq_some_iff, Place.calendarYear, Place.calendarMonth]
    split at hyear <;> split <;> omega

/-- A day is found again by its number. -/
theorem ofDayNumber?_dayNumber (d : Date) : ofDayNumber? d.dayNumber = some d :=
  ofDayNumber?_eq_some_iff.2 rfl

/-! ## The days of the calendar -/

/-- The first day of the calendar. -/
def first : Date := ⟨minYear, 1, 1, by decide⟩

/-- The last day of the calendar. -/
def last : Date := ⟨maxYear, 12, 31, by decide⟩

namespace Place

/-- A place is a day of its month. -/
theorem day_lt_daysInMonth (p : Place) :
    (p.day + 1).toNat ≤ daysInMonth p.calendarYear p.calendarMonth := by
  have hrange := p.month_nonneg
  have hrange' := p.month_le
  have hnext := p.day_lt
  have hyear := p.inYear_le
  have hleapDay := p.leapDay
  have hleap := p.leap_range
  unfold calendarYear calendarMonth
  by_cases hfebruary : p.month = 11
  · rw [hfebruary] at hyear hleapDay ⊢
    simp only [daysBeforeMonth] at hyear hleapDay
    have hleapYear : p.day = 28 → isLeapYear (p.year + 1) := by
      intro h
      simp [isLeapYear, year]
      omega
    change (p.day + 1).toNat ≤ if isLeapYear (p.year + 1) then 29 else 28
    split
    · omega
    · rename_i hcommon
      have hday : p.day ≠ 28 := fun h => hcommon (hleapYear h)
      omega
  · generalize p.month = month at *
    interval_cases month <;> simp [daysBeforeMonth, daysInMonth] at hfebruary hnext ⊢ <;> omega

/-- A place is in its year of the calendar, which starts 306 days after its counted year. -/
theorem number_bounds (p : Place) : daysBeforeYear (p.calendarYear - 1) + 306 ≤ p.number ∧
    p.number < daysBeforeYear p.calendarYear + 306 := by
  have hnext := p.day_lt
  have hday := p.day_nonneg
  have hyear := p.inYear_le
  have hchange : 0 ≤ daysBeforeMonth p.month + p.day ∧
      (p.month < 10 ↔ daysBeforeMonth p.month + p.day < 306) := by
    have hrange := p.month_nonneg
    unfold daysBeforeMonth at *
    omega
  have hstep (year : Int) : daysBeforeYear year + 365 ≤ daysBeforeYear (year + 1) := by
    rw [daysBeforeYear_succ]
    split <;> omega
  rw [calendarYear, number]
  split
  · have hlast := hstep (p.year - 1)
    rw [Int.sub_add_cancel] at hlast
    omega
  · have hnext' := hstep p.year
    rw [Int.add_sub_cancel]
    omega

theorem isDate_iff (p : Place) : IsDate p.calendarYear p.calendarMonth (p.day + 1).toNat ↔
    first.dayNumber ≤ p.number ∧ p.number ≤ last.dayNumber := by
  have hday := p.day_nonneg
  have hdays := p.day_lt_daysInMonth
  have hmonths : 1 ≤ p.calendarMonth ∧ p.calendarMonth ≤ 12 := by
    have hrange := p.month_nonneg
    have hrange' := p.month_le
    unfold calendarMonth
    split <;> omega
  obtain ⟨hstart, hend⟩ := p.number_bounds
  have hfirst : first.dayNumber = daysBeforeYear (minYear - 1) + 306 := rfl
  have hlast : last.dayNumber = daysBeforeYear maxYear + 305 := rfl
  have hminYear : minYear ≤ p.calendarYear ↔ first.dayNumber ≤ p.number := by
    by_cases h : minYear ≤ p.calendarYear
    · have hmono := daysBeforeYear_mono (show minYear - 1 ≤ p.calendarYear - 1 by omega)
      omega
    · have hmono := daysBeforeYear_mono (show p.calendarYear ≤ minYear - 1 by omega)
      omega
  have hmaxYear : p.calendarYear ≤ maxYear ↔ p.number ≤ last.dayNumber := by
    by_cases h : p.calendarYear ≤ maxYear
    · have hmono := daysBeforeYear_mono h
      omega
    · have hmono := daysBeforeYear_mono (show maxYear ≤ p.calendarYear - 1 by omega)
      omega
  rw [IsDate, ← hminYear, ← hmaxYear]
  omega

end Place

/-- The numbers of the days are those from the first day to the last. -/
theorem exists_ofDayNumber?_iff {n : Int} : (∃ d, ofDayNumber? n = some d) ↔
    first.dayNumber ≤ n ∧ n ≤ last.dayNumber := by
  obtain ⟨p, rfl⟩ := Place.exists_number n
  rw [p.ofDayNumber?_number, ← p.isDate_iff, ofYmd?]
  split <;> simp_all

/-! ## The order of days -/

/-- A day of an earlier counted year has a smaller number. -/
theorem dayNumber_lt_of_marchYear {a b : Date} (h : a.marchYear < b.marchYear) :
    a.dayNumber < b.dayNumber := by
  obtain ⟨-, hyear, hleapDay⟩ := daysBeforeMonth_add_day a
  have hnext := daysBeforeYear_mono (show a.marchYear + 1 ≤ b.marchYear by omega)
  rw [daysBeforeYear_succ] at hnext
  have hleap : daysBeforeMonth a.marchMonth + (a.day - 1 : Nat) = 365 →
      isLeapYear (a.marchYear + 1) := by
    intro h
    obtain ⟨hfebruary, hyear⟩ := hleapDay h
    rw [marchYear, hfebruary, if_pos (by omega), Int.sub_add_cancel]
    exact hyear
  have hmonth : 0 ≤ daysBeforeMonth b.marchMonth := by
    unfold daysBeforeMonth
    omega
  rw [dayNumber_eq, dayNumber_eq]
  split at hnext
  · omega
  · rename_i hcommon
    have hyear' : daysBeforeMonth a.marchMonth + (a.day - 1 : Nat) ≠ 365 :=
      fun h => hcommon (hleap h)
    omega

/-- A later day has a greater number. -/
theorem dayNumber_lt {a b : Date} (h : compare a b = .lt) : a.dayNumber < b.dayNumber := by
  simp only [compare_date, Ordering.then_eq_lt, Nat.compare_eq_lt, Nat.compare_eq_eq,
    Int.compare_eq_lt, Int.compare_eq_eq] at h
  obtain ⟨-, -, hfirst, hlast, hday, -⟩ := a.isDate
  obtain ⟨-, -, hfirst', hlast', hday', -⟩ := b.isDate
  have hmarch : a.marchYear < b.marchYear ∨ a.marchYear = b.marchYear ∧
      (a.marchMonth < b.marchMonth ∨ a.marchMonth = b.marchMonth ∧ a.day < b.day) := by
    unfold marchYear marchMonth
    split <;> split <;> omega
  rcases hmarch with hyear | ⟨hyear, hmonth | ⟨hmonth, hday⟩⟩
  · exact dayNumber_lt_of_marchYear hyear
  · have hnext := (daysBeforeMonth_add_day a).1
    have hmono := daysBeforeMonth_mono (show (a.marchMonth : Int) + 1 ≤ b.marchMonth by omega)
    rw [dayNumber_eq, dayNumber_eq, hyear]
    omega
  · rw [dayNumber_eq, dayNumber_eq, hyear, hmonth]
    omega

theorem compare_dayNumber (a b : Date) : compare a.dayNumber b.dayNumber = compare a b := by
  cases h : compare a b with
  | lt => exact Int.compare_eq_lt.2 (dayNumber_lt h)
  | eq =>
    simp only [compare_date, Ordering.then_eq_eq, Nat.compare_eq_eq, Int.compare_eq_eq] at h
    rw [dayNumber, dayNumber, h.1, h.2.1, h.2.2, Std.ReflOrd.compare_self]
  | gt =>
    have hswap : compare b a = .lt := by
      simp only [compare_date, Ordering.then_eq_gt, Ordering.then_eq_lt, Nat.compare_eq_lt,
        Nat.compare_eq_gt, Nat.compare_eq_eq, Int.compare_eq_lt, Int.compare_eq_gt,
        Int.compare_eq_eq] at h ⊢
      omega
    exact Int.compare_eq_gt.2 (dayNumber_lt hswap)

end Date

theorem Time.ofHms?_self (t : Time) : ofHms? t.hour t.minute t.second t.nano = some t :=
  dif_pos t.isTime

/-- A moment that is moved by nothing is the same moment. -/
theorem DateTime.subOffset?_zero (t : DateTime) : t.subOffset? 0 = some t := by
  obtain ⟨hhour, hminute, -, -⟩ := t.time.isTime
  have hday : (60 * (t.time.hour : Int) + t.time.minute - 0) / 1440 = 0 := by omega
  have hclock : ((60 * (t.time.hour : Int) + t.time.minute - 0) % 1440).toNat =
      60 * t.time.hour + t.time.minute := by omega
  have hhour' : (60 * t.time.hour + t.time.minute) / 60 = t.time.hour := by omega
  have hminute' : (60 * t.time.hour + t.time.minute) % 60 = t.time.minute := by omega
  unfold subOffset?
  simp only [hday, hclock, hhour', hminute', Time.ofHms?_self, Date.addDays?, Int.add_zero,
    Date.ofDayNumber?_dayNumber]

end SearchQuery
