import Mathlib.Tactic.Common
import SearchQuery.Proofs.Calendar.Span

/-!
# What a span holds

The moments from the first to the last of a span are those that agree with every component that the
span is given by, as far as they are whole microseconds outside of leap seconds: the last
microsecond is as close to the end of a span as its last moment comes.

* `PartialDate.between_iff`, `PartialTime.between_iff`: days and times of day.
* `PartialDateTime.between_iff`: moments, where all of the day or only one day is spanned.
* `accepted_between_iff`: the spans that are accepted.
-/

namespace SearchQuery

/-- Neither before the first nor after the last of two moments. -/
def IsBetween {α : Type} [Ord α] (first last t : α) : Prop :=
  (compare first t).isLE ∧ (compare t last).isLE

/-! ## Days -/

namespace Date

theorem isLE_compare_iff {a b : Date} : (compare a b).isLE ↔
    a.year < b.year ∨ a.year = b.year ∧ (a.month < b.month ∨ a.month = b.month ∧ a.day ≤ b.day) := by
  simp only [compare_date, Ordering.isLE_then_iff_or, Nat.isLE_compare, Nat.compare_eq_lt,
    Nat.compare_eq_eq, Int.compare_eq_lt, Int.compare_eq_eq]

theorem between_self_iff {a b : Date} :
    IsBetween a a b ↔ b.year = a.year ∧ b.month = a.month ∧ b.day = a.day := by
  rw [IsBetween, isLE_compare_iff, isLE_compare_iff]
  omega

end Date

namespace PartialDate

variable {p : PartialDate} {first last : Date}

/-- The day agrees with every component that is given. -/
def Names (p : PartialDate) (d : Date) : Prop := d.year = p.year ∧ ∀ month ∈ p.month, d.month = month

/-- **Days of a span.** The days of a year or month are those from its first to its last day. -/
theorem between_iff (hfirst : p.resolve .first = some first) (hlast : p.resolve .last = some last)
    (d : Date) : IsBetween first last d ↔ p.Names d := by
  have hends : ¬ p.EndsCalendar := fun hends => by
    rw [resolve_last_eq_none hends] at hlast
    cases hlast
  rw [resolve_last_eq hends hfirst, Date.ofYmd?_eq_some_iff] at hlast
  rw [resolve_eq_first, Date.ofYmd?_eq_some_iff] at hfirst
  obtain ⟨hyear, hmonth, hday⟩ := hfirst
  obtain ⟨hyear', hmonth', hday'⟩ := hlast
  obtain ⟨-, -, hlow, hhigh, hpos, hdays⟩ := d.isDate
  rw [IsBetween, Names, Date.isLE_compare_iff, Date.isLE_compare_iff, hyear, hmonth, hday, hyear',
    hmonth', hday']
  -- The day is within its month, whose length is that of the last month where the two agree.
  cases p.month with
  | none =>
    simp only [Option.getD_none, Option.not_mem_none, false_implies, implies_true, and_true]
    constructor
    · omega
    · intro h
      have hmonths : d.month = 12 → d.day ≤ daysInMonth p.year 12 := fun h' => h ▸ h' ▸ hdays
      omega
  | some month =>
    simp only [Option.getD_some, Option.mem_some_iff, forall_eq']
    constructor
    · omega
    · rintro ⟨h, h'⟩
      rw [h, h'] at hdays
      omega

end PartialDate

/-! ## Times of day -/

namespace Time

/-- A whole number of microseconds, outside of leap seconds. -/
def IsWhole (t : Time) : Prop := t.inLeapSecond = false ∧ t.nano % 1000 = 0

instance (t : Time) : Decidable t.IsWhole := inferInstanceAs (Decidable (_ ∧ _))

theorem IsWhole.bounds {t : Time} (h : t.IsWhole) :
    t.hour < 24 ∧ t.minute < 60 ∧ t.second < 60 ∧ t.nano ≤ 999999000 := by
  obtain ⟨hhour, hminute, hsecond, hnano⟩ := t.isTime
  obtain ⟨hleap, hmicro⟩ := h
  have hleap : t.second ≠ 60 := by simpa [inLeapSecond] using hleap
  omega

theorem isLE_compare_iff {a b : Time} : (compare a b).isLE ↔
    a.hour < b.hour ∨ a.hour = b.hour ∧ (a.minute < b.minute ∨ a.minute = b.minute ∧
      (a.second < b.second ∨ a.second = b.second ∧ a.nano ≤ b.nano)) := by
  change ((a.compareClock b).then (compare a.nano b.nano)).isLE ↔ _
  simp only [compareClock, Ordering.then_assoc, Ordering.isLE_then_iff_or, Nat.isLE_compare,
    Nat.compare_eq_lt, Nat.compare_eq_eq]

/-- The whole day lies between its first and its last moment. -/
theorem between_day {t : Time} (h : t.IsWhole) : IsBetween midnight lastMicrosecond t := by
  have hbounds := h.bounds
  rw [IsBetween, isLE_compare_iff, isLE_compare_iff]
  simp only [midnight, lastMicrosecond]
  omega

end Time

namespace PartialTime

variable {p : PartialTime} {first last : Time}

/-- The time agrees with every component that is given. -/
def Names (p : PartialTime) (t : Time) : Prop :=
  t.hour = p.hour ∧ ∀ minute ∈ p.minute, t.minute = minute

/-- **Times of a span.** The times in an hour or minute are those from its first to its last
microsecond. -/
theorem between_iff (hfirst : p.resolve .first = some first) (hlast : p.resolve .last = some last)
    {t : Time} (ht : t.IsWhole) : IsBetween first last t ↔ p.Names t := by
  have hfirst := Time.ofHms?_eq_some_iff.1 hfirst
  have hlast := Time.ofHms?_eq_some_iff.1 hlast
  have hbounds := ht.bounds
  rw [IsBetween, Names, Time.isLE_compare_iff, Time.isLE_compare_iff]
  cases hminute : p.minute with
  | none =>
    simp only [hminute, Option.getD_none] at hfirst hlast
    simp only [Option.not_mem_none, false_implies, implies_true, and_true]
    omega
  | some minute =>
    simp only [hminute, Option.getD_some] at hfirst hlast
    simp only [Option.mem_some_iff, forall_eq']
    omega

end PartialTime

/-! ## Moments -/

namespace DateTime

theorem isLE_compare_iff {a b : DateTime} : (compare a b).isLE ↔
    compare a.date b.date = .lt ∨ compare a.date b.date = .eq ∧ (compare a.time b.time).isLE :=
  Ordering.isLE_then_iff_or

variable {first last t : DateTime}

/-- Where all of the day is spanned, the day alone decides. -/
theorem between_iff_date (h : IsBetween first.time last.time t.time) :
    IsBetween first last t ↔ IsBetween first.date last.date t.date := by
  rw [IsBetween, IsBetween, isLE_compare_iff, isLE_compare_iff]
  simp only [h.1, h.2, and_true, Ordering.isLE_iff_eq_lt_or_eq_eq]

/-- Where a single day is spanned, the time decides on that day. -/
theorem between_iff_time (h : first.date = last.date) :
    IsBetween first last t ↔
      IsBetween first.date last.date t.date ∧ IsBetween first.time last.time t.time := by
  have hsame : IsBetween first.date last.date t.date →
      compare first.date t.date = .eq ∧ compare t.date last.date = .eq := by
    rw [← h, Date.between_self_iff]
    rintro ⟨hyear, hmonth, hday⟩
    simp only [compare_date, hyear, hmonth, hday, Std.ReflOrd.compare_self, Ordering.eq_then,
      and_self]
  rw [IsBetween, isLE_compare_iff, isLE_compare_iff]
  constructor
  · rintro ⟨hfirst, hlast⟩
    have hdate : IsBetween first.date last.date t.date :=
      ⟨Ordering.isLE_iff_eq_lt_or_eq_eq.2 (hfirst.imp_right And.left),
        Ordering.isLE_iff_eq_lt_or_eq_eq.2 (hlast.imp_right And.left)⟩
    obtain ⟨heq, heq'⟩ := hsame hdate
    rw [heq] at hfirst
    rw [heq'] at hlast
    simp only [reduceCtorEq, false_or] at hfirst hlast
    exact ⟨hdate, hfirst.2, hlast.2⟩
  · rintro ⟨hdate, hfirst, hlast⟩
    obtain ⟨heq, heq'⟩ := hsame hdate
    exact ⟨.inr ⟨heq, hfirst⟩, .inr ⟨heq', hlast⟩⟩

end DateTime

namespace PartialDateTime

variable {p : PartialDateTime}

/-- The moment agrees with every component that is given. -/
def Names (p : PartialDateTime) (t : DateTime) : Prop :=
  t.date.year = p.year ∧ (∀ month ∈ p.month, t.date.month = month) ∧
    (∀ day ∈ p.day, t.date.day = day) ∧ (∀ hour ∈ p.hour, t.time.hour = hour) ∧
    ∀ minute ∈ p.minute, t.time.minute = minute

/-- The days of the span are those that agree with its year, month and day. -/
theorem dayAt?_between_iff {first last : Date} (hfirst : p.dayAt? .first = some first)
    (hlast : p.dayAt? .last = some last) (d : Date) :
    IsBetween first last d ↔
      d.year = p.year ∧ (∀ month ∈ p.month, d.month = month) ∧ ∀ day ∈ p.day, d.day = day := by
  unfold dayAt? at *
  cases hday : p.day with
  | none =>
    rw [hday] at hfirst hlast
    rw [PartialDate.between_iff hfirst hlast, PartialDate.Names]
    simp
  | some day =>
    rw [hday] at hfirst hlast
    dsimp only at hfirst hlast
    obtain rfl : first = last := Option.some.inj (hfirst.symm.trans hlast)
    obtain ⟨month, hmonth, hdate⟩ := Option.bind_eq_some_iff.1 hfirst
    obtain ⟨hyear, hmonth', hday'⟩ := Date.ofYmd?_eq_some_iff.1 hdate
    rw [Date.between_self_iff, hyear, hmonth', hday', hmonth]
    simp

/-- The times of the span are those that agree with its hour and minute. -/
theorem timeAt?_between_iff {first last : Time} (hminute : p.hour.isSome ∨ p.minute.isNone)
    (hfirst : p.timeAt? .first = some first) (hlast : p.timeAt? .last = some last) {t : Time}
    (ht : t.IsWhole) :
    IsBetween first last t ↔
      (∀ hour ∈ p.hour, t.hour = hour) ∧ ∀ minute ∈ p.minute, t.minute = minute := by
  unfold timeAt? at *
  cases hhour : p.hour with
  | none =>
    rw [hhour] at hfirst hlast hminute
    cases hfirst
    cases hlast
    obtain hminute := Option.isNone_iff_eq_none.1 (hminute.resolve_left nofun)
    simp [Time.between_day ht, hminute]
  | some hour =>
    rw [hhour] at hfirst hlast
    rw [PartialTime.between_iff hfirst hlast ht, PartialTime.Names]
    simp

/-- **Moments of a span.** The moments that agree with the components are those from the first to
the last of the span. -/
theorem between_iff {first last t : DateTime} (hordered : p.ordered)
    (hfirst : p.resolve .first = some first) (hlast : p.resolve .last = some last)
    (ht : t.time.IsWhole) : IsBetween first last t ↔ p.Names t := by
  simp only [ordered, Bool.and_eq_true, Bool.or_eq_true] at hordered
  obtain ⟨⟨-, hhour⟩, hminute⟩ := hordered
  obtain ⟨hdate, htime⟩ := resolve_eq_some.1 hfirst
  obtain ⟨hdate', htime'⟩ := resolve_eq_some.1 hlast
  have hdays := dayAt?_between_iff hdate hdate' t.date
  have htimes := timeAt?_between_iff hminute htime htime' ht
  have hsplit : IsBetween first last t ↔
      IsBetween first.date last.date t.date ∧ IsBetween first.time last.time t.time := by
    -- Only a span of a single day has an hour.
    cases hday : p.day with
    | none =>
      have hnone : p.hour = none := Option.isNone_iff_eq_none.1 (hhour.resolve_left (by simp [hday]))
      have hall : IsBetween first.time last.time t.time := by
        rw [htimes, hnone]
        rw [hnone] at hminute
        simp [Option.isNone_iff_eq_none.1 (hminute.resolve_left nofun)]
      rw [DateTime.between_iff_date hall, and_iff_left hall]
    | some day =>
      refine DateTime.between_iff_time ?_
      rw [dayAt?, hday] at hdate hdate'
      exact Option.some.inj (hdate.symm.trans hdate')
  rw [hsplit, hdays, htimes, Names, and_assoc, and_assoc]

end PartialDateTime

/-! ## Spans that are accepted -/

/-- **What a span holds.** Between the first and the last moment of a date, time or moment that is
accepted as truncated are just the days, and of times and moments those in whole microseconds
outside of leap seconds, that agree with all its components. -/
theorem accepted_between_iff (year : Int) (month day hour minute : Option Nat) (hours : Nat) :
    (∀ p first last, PartialDate.ofComponents? year month = some p →
      p.resolve .first = some first → p.resolve .last = some last →
      ∀ d, IsBetween first last d ↔ p.Names d) ∧
    (∀ p first last, PartialTime.ofComponents? hours minute = some p →
      p.resolve .first = some first → p.resolve .last = some last →
      ∀ t : Time, t.IsWhole → (IsBetween first last t ↔ p.Names t)) ∧
    ∀ p first last, PartialDateTime.ofComponents? year month day hour minute = some p →
      p.resolve .first = some first → p.resolve .last = some last →
      ∀ t : DateTime, t.time.IsWhole → (IsBetween first last t ↔ p.Names t) := by
  refine ⟨?date, ?time, ?moment⟩
  case date =>
    intro p first last _ hfirst hlast d
    exact PartialDate.between_iff hfirst hlast d
  case time =>
    intro p first last _ hfirst hlast t ht
    exact PartialTime.between_iff hfirst hlast ht
  case moment =>
    intro p first last h hfirst hlast t ht
    obtain ⟨-, hordered, -⟩ := PartialDateTime.ofComponents?_eq_some_iff.1 h
    exact PartialDateTime.between_iff hordered hfirst hlast ht

/-- The leap day of 2020 is a day of February, and its last microsecond is in the last minute of a
day and in the last minute of that day. -/
theorem accepted_between_iff_leap_day :
    let leapDay : Date := ⟨2020, 2, 29, by decide⟩
    let start : Time := ⟨23, 59, 0, 0, by decide⟩
    let stop : Time := ⟨23, 59, 59, 999999000, by decide⟩
    let february : PartialDate := ⟨2020, some 2⟩
    let minute : PartialTime := ⟨23, some 59⟩
    let moment : PartialDateTime := ⟨2020, some 2, some 29, some 23, some 59⟩
    (PartialDate.ofComponents? 2020 (some 2) = some february ∧
      february.resolve .first = some ⟨2020, 2, 1, by decide⟩ ∧
      february.resolve .last = some leapDay ∧ IsBetween ⟨2020, 2, 1, by decide⟩ leapDay leapDay) ∧
    stop.IsWhole ∧
    (PartialTime.ofComponents? 23 (some 59) = some minute ∧ minute.resolve .first = some start ∧
      minute.resolve .last = some stop ∧ IsBetween start stop stop) ∧
    PartialDateTime.ofComponents? 2020 (some 2) (some 29) (some 23) (some 59) = some moment ∧
      moment.resolve .first = some ⟨leapDay, start⟩ ∧
      moment.resolve .last = some ⟨leapDay, stop⟩ ∧
      IsBetween (⟨leapDay, start⟩ : DateTime) ⟨leapDay, stop⟩ ⟨leapDay, stop⟩ := by
  intro leapDay start stop february minute moment
  obtain ⟨hdate, htime, hmoment⟩ :=
    accepted_between_iff 2020 (some 2) (some 29) (some 23) (some 59) 23
  have hwhole : stop.IsWhole := by decide
  have hfebruary : february.resolve .last = some leapDay := by decide
  have hstop : minute.resolve .last = some stop := by decide
  have hmoment' : moment.resolve .last = some ⟨leapDay, stop⟩ := by decide
  refine ⟨⟨rfl, rfl, hfebruary, ?day⟩, hwhole, ⟨rfl, rfl, hstop, ?minute⟩, rfl, rfl, hmoment', ?moment⟩
  case day =>
    refine (hdate february _ _ rfl rfl hfebruary leapDay).2 ?_
    simp [PartialDate.Names, leapDay, february]
  case minute =>
    refine (htime minute _ _ rfl rfl hstop stop hwhole).2 ?_
    simp [PartialTime.Names, stop, minute]
  case moment =>
    refine (hmoment moment _ _ rfl rfl hmoment' ⟨leapDay, stop⟩ hwhole).2 ?_
    simp [PartialDateTime.Names, leapDay, stop, moment]

end SearchQuery
