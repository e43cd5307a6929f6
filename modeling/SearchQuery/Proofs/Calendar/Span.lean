import SearchQuery.Calendar.Partial
import SearchQuery.Proofs.Calendar.Order

/-!
# The ends of spans

A truncated date or time that has a first moment has a last one too (`PartialDate.resolve_last`,
`PartialTime.resolve_last`, `PartialDateTime.exists_last`), and the last one comes later. It is only
of a span that ends with the calendar that the last moment is missing, since it is sought from the
day after it (`PartialDate.resolve_last_eq_none`).

* `accepted_hasEnds_iff`: which of the spans that are accepted have both their ends.

What is read of a text has a year of four digits, and its span a first moment (`PartialDate.read?_ok`,
`PartialTime.read?_ok`, `PartialDateTime.read?_ok`).
-/

namespace SearchQuery

/-- A span has a first and a last moment, and the last does not come before the first. -/
def HasEnds {α : Type} [Ord α] (resolve : Bound → Option α) : Prop :=
  ∃ first last, resolve .first = some first ∧ resolve .last = some last ∧ (compare first last).isLE

/-- A span with a first moment has both ends unless its last moment is missing. -/
theorem hasEnds_iff_not {α : Type} [Ord α] {resolve : Bound → Option α} {first : α}
    {missing : Prop} (hfirst : resolve .first = some first)
    (hnone : missing → resolve .last = none)
    (hsome : ¬ missing → ∃ last, resolve .last = some last ∧ (compare first last).isLE) :
    HasEnds resolve ↔ ¬ missing := by
  constructor
  · rintro ⟨_, last, -, hlast, -⟩ hmissing
    rw [hnone hmissing] at hlast
    cases hlast
  · intro hmissing
    obtain ⟨last, hlast, hle⟩ := hsome hmissing
    exact ⟨first, last, hfirst, hlast, hle⟩

/-- What is accepted where its span has a first moment is given as it is. -/
theorem ite_resolves_eq_some_iff {α β : Type} (resolve : α → Option β) {p q : α} :
    (if (resolve q).isSome then some q else none) = some p ↔
      p = q ∧ ∃ first, resolve p = some first := by
  rw [Option.ite_none_right_eq_some, Option.some.injEq, Option.isSome_iff_exists]
  constructor
  · rintro ⟨hfirst, rfl⟩
    exact ⟨rfl, hfirst⟩
  · rintro ⟨rfl, hfirst⟩
    exact ⟨hfirst, rfl⟩

/-! ## Dates -/

namespace Date

theorem daysInMonth_pos (year : Int) (month : Nat) : 1 ≤ daysInMonth year month := by
  unfold daysInMonth
  repeat' split
  all_goals omega

theorem ofYmd?_of_isDate {year : Int} {month day : Nat} (h : IsDate year month day) :
    ofYmd? year month day = some ⟨year, month, day, h⟩ := dif_pos h

/-- The day before some months after the first of a month is the last of a month. -/
theorem addMonths?_pred? {first : Date} {year n : Int} {month : Nat} (hday : first.day = 1)
    (hmonth : 1 ≤ month ∧ month ≤ 12) (hyear : minYear ≤ year ∧ year ≤ maxYear)
    (hlast : ¬ (year = maxYear ∧ month = 12))
    (h : 12 * first.year + first.month + n = 12 * year + month + 1) :
    (first.addMonths? n).bind pred? = ofYmd? year month (daysInMonth year month) := by
  have hfirst := first.isDate.2.2.1
  obtain ⟨hlow, hhigh⟩ := hyear
  unfold addMonths?
  rw [hday]
  by_cases hdecember : month = 12
  · subst hdecember
    have hyear : (12 * first.year + (first.month - 1 : Nat) + n) / 12 = year + 1 := by omega
    have hmonth : ((12 * first.year + (first.month - 1 : Nat) + n) % 12).toNat + 1 = 1 := by omega
    simp only [hyear, hmonth, Nat.min_eq_left (daysInMonth_pos _ _)]
    rw [ofYmd?_of_isDate ⟨by omega, by omega, by omega, by omega, by omega, daysInMonth_pos _ _⟩]
    simp [pred?, daysInMonth]
  · have hyear : (12 * first.year + (first.month - 1 : Nat) + n) / 12 = year := by omega
    have hmonth : ((12 * first.year + (first.month - 1 : Nat) + n) % 12).toNat + 1 = month + 1 := by
      omega
    simp only [hyear, hmonth, Nat.min_eq_left (daysInMonth_pos _ _)]
    rw [ofYmd?_of_isDate ⟨by omega, by omega, by omega, by omega, by omega, daysInMonth_pos _ _⟩]
    simp [pred?]
    omega

end Date

namespace PartialDate

variable {p : PartialDate} {first : Date}

theorem resolve_eq_first : p.resolve .first = Date.ofYmd? p.year (p.month.getD 1) 1 := by
  simp [resolve]

theorem resolve_eq_last (h : p.resolve .first = some first) : p.resolve .last =
    (first.addMonths? (if p.month.isSome then 1 else 12)).bind Date.pred? := by
  rw [resolve_eq_first] at h
  simp [resolve, h]

/-- The span ends with the last day of the calendar. -/
def EndsCalendar (p : PartialDate) : Prop := p.year = maxYear ∧ p.month.getD 12 = 12

theorem not_endsCalendar (h : p.year ≤ 9999) : ¬ p.EndsCalendar := by
  rintro ⟨hyear, -⟩
  rw [hyear] at h
  exact absurd h (by decide)

/-- The last day of a year or month that does not end with the calendar. -/
theorem resolve_last_eq (hends : ¬ p.EndsCalendar) (h : p.resolve .first = some first) :
    p.resolve .last =
      Date.ofYmd? p.year (p.month.getD 12) (daysInMonth p.year (p.month.getD 12)) := by
  rw [resolve_eq_last h]
  rw [resolve_eq_first, Date.ofYmd?_eq_some_iff] at h
  obtain ⟨hfirst, hmonth, hday⟩ := h
  obtain ⟨hlow, hhigh, hmonth', hmonth'', -⟩ := first.isDate
  rw [hfirst] at hlow hhigh
  have hstep : 12 * first.year + first.month + (if p.month.isSome then 1 else 12) =
      12 * p.year + (p.month.getD 12 : Nat) + 1 := by
    cases hp : p.month <;> simp [hp] at hmonth ⊢ <;> omega
  have hrange : 1 ≤ p.month.getD 12 ∧ p.month.getD 12 ≤ 12 := by
    cases hp : p.month <;> simp [hp] at hmonth ⊢; omega
  exact Date.addMonths?_pred? hday hrange ⟨hlow, hhigh⟩ hends hstep

/-- **Last day.** A year or month that has a first day has a last one, unless it ends with the
calendar. -/
theorem resolve_last (hends : ¬ p.EndsCalendar) (h : p.resolve .first = some first) :
    ∃ last, p.resolve .last = some last ∧ first.year = p.year ∧ last.year = p.year ∧
      (compare first last).isLE := by
  have hlast := resolve_last_eq hends h
  rw [resolve_eq_first, Date.ofYmd?_eq_some_iff] at h
  obtain ⟨hfirst, hmonth, hday⟩ := h
  obtain ⟨hlow, hhigh, hmonth', hmonth'', -⟩ := first.isDate
  rw [hfirst] at hlow hhigh
  have hrange : 1 ≤ p.month.getD 12 ∧ first.month ≤ p.month.getD 12 ∧ p.month.getD 12 ≤ 12 := by
    cases hp : p.month <;> simp [hp] at hmonth ⊢ <;> omega
  have hdays := Date.daysInMonth_pos p.year (p.month.getD 12)
  rw [Date.ofYmd?_of_isDate ⟨hlow, hhigh, hrange.1, hrange.2.2, hdays, Nat.le_refl _⟩] at hlast
  exact ⟨_, hlast, hfirst, rfl,
    Date.isLE_compare hfirst hrange.2.1 (Nat.le_trans (Nat.le_of_eq hday) hdays)⟩

/-- Where the calendar ends there is no next day to go back from. -/
theorem resolve_last_eq_none (h : p.EndsCalendar) : p.resolve .last = none := by
  obtain ⟨hyear, hmonth⟩ := h
  cases hresolve : p.resolve .first with
  | none =>
    rw [resolve_eq_first] at hresolve
    simp [resolve, hresolve]
  | some first =>
    rw [resolve_eq_last hresolve]
    rw [resolve_eq_first, Date.ofYmd?_eq_some_iff] at hresolve
    obtain ⟨hfirst, hmonth', -⟩ := hresolve
    have hstep : 12 * first.year + (first.month - 1 : Nat) + (if p.month.isSome then 1 else 12) =
        12 * (maxYear + 1) := by
      cases hp : p.month <;> simp [hp] at hmonth hmonth' ⊢ <;> omega
    have hnone : first.addMonths? (if p.month.isSome then 1 else 12) = none := by
      have hnext : 12 * (maxYear + 1) / 12 = maxYear + 1 := by decide
      unfold Date.addMonths?
      simp only [hstep, hnext]
      exact dif_neg fun h => absurd h.2.1 (by decide)
    rw [hnone]
    rfl

theorem hasEnds_iff (h : p.resolve .first = some first) :
    HasEnds p.resolve ↔ ¬ p.EndsCalendar := by
  refine hasEnds_iff_not h resolve_last_eq_none fun hends => ?_
  obtain ⟨last, hlast, -, -, hle⟩ := resolve_last hends h
  exact ⟨last, hlast, hle⟩

theorem ofComponents?_eq_some_iff {year : Int} {month : Option Nat} :
    ofComponents? year month = some p ↔
      p = ⟨year, month⟩ ∧ ∃ first, p.resolve .first = some first :=
  ite_resolves_eq_some_iff (resolve · .first)

end PartialDate

/-! ## Times -/

theorem Time.ofHms?_eq_some_iff {hour minute second nano : Nat} {t : Time} :
    ofHms? hour minute second nano = some t ↔
      t.hour = hour ∧ t.minute = minute ∧ t.second = second ∧ t.nano = nano := by
  unfold ofHms?
  split
  · constructor
    · rintro ⟨⟩
      exact ⟨rfl, rfl, rfl, rfl⟩
    · rintro ⟨rfl, rfl, rfl, rfl⟩
      rfl
  · rename_i h
    refine iff_of_false nofun ?_
    rintro ⟨rfl, rfl, rfl, rfl⟩
    exact h t.isTime

namespace PartialTime

variable {p : PartialTime} {first : Time}

/-- **Last moment of an hour.** An hour or minute that has a first moment has a last one, in a
later second. -/
theorem resolve_last (h : p.resolve .first = some first) :
    ∃ last, p.resolve .last = some last ∧ first.nano = 0 ∧ last.nano = 999999000 ∧
      first.compareClock last = .lt := by
  change Time.ofHms? p.hour (p.minute.getD 0) 0 0 = some first at h
  obtain ⟨hhour, hminute, hsecond, hnano⟩ := Time.ofHms?_eq_some_iff.1 h
  have htime := first.isTime
  have hminute' : p.minute.getD 59 < 60 := by
    cases hp : p.minute with
    | none => rw [Option.getD_none]; omega
    | some minute =>
      rw [hp, Option.getD_some] at hminute
      rw [Option.getD_some, ← hminute]
      exact htime.2.1
  have hlast : IsTime p.hour (p.minute.getD 59) 59 999999000 :=
    ⟨hhour ▸ htime.1, hminute', by omega, by omega⟩
  refine ⟨⟨_, _, _, _, hlast⟩, dif_pos hlast, hnano, rfl, ?_⟩
  rw [Time.compareClock, hhour, hminute, hsecond, Std.ReflOrd.compare_self, Ordering.eq_then]
  dsimp only
  cases p.minute with
  | none => rfl
  | some minute =>
    rw [Option.getD_some, Option.getD_some, Std.ReflOrd.compare_self, Ordering.eq_then]
    rfl

theorem hasEnds (h : p.resolve .first = some first) : HasEnds p.resolve := by
  obtain ⟨last, hlast, -, -, hlt⟩ := resolve_last h
  have hle : (first.compareClock last).then (compare first.nano last.nano) = .lt := by rw [hlt]; rfl
  exact ⟨first, last, h, hlast, Ordering.isLE_of_eq_lt hle⟩

theorem ofComponents?_eq_some_iff {hour : Nat} {minute : Option Nat} :
    ofComponents? hour minute = some p ↔
      p = ⟨hour, minute⟩ ∧ ∃ first, p.resolve .first = some first :=
  ite_resolves_eq_some_iff (resolve · .first)

end PartialTime

/-! ## Moments -/

/-- The ends of a span: whole seconds up to the last microsecond of a later one. -/
structure DateTime.IsSpan (first last : DateTime) : Prop where
  firstYear : first.date.InFourDigits
  lastYear : last.date.InFourDigits
  firstNano : first.time.nano = 0
  lastNano : last.time.nano = 999999000
  ordered : first.compareClock last = .lt

/-- What starts on the day of its start or before it, and then at an earlier second of the day, ends
later. -/
theorem DateTime.compareClock_eq_lt {a b : DateTime} (hdate : (compare a.date b.date).isLE)
    (htime : a.time.compareClock b.time = .lt) : a.compareClock b = .lt := by
  rw [compareClock, htime, Ordering.then_eq_lt]
  cases h : compare a.date b.date with
  | lt => exact .inl rfl
  | eq => exact .inr ⟨rfl, rfl⟩
  | gt =>
    rw [h] at hdate
    cases hdate

namespace PartialDateTime

variable {p : PartialDateTime}

/-- The first or last day of the span. -/
def dayAt? (p : PartialDateTime) (bound : Bound) : Option Date :=
  match p.day with
  | some day => p.month.bind fun month => Date.ofYmd? p.year month day
  | none => (⟨p.year, p.month⟩ : PartialDate).resolve bound

/-- The time of day at which the span starts or ends. -/
def timeAt? (p : PartialDateTime) (bound : Bound) : Option Time :=
  match p.hour, bound with
  | some hour, bound => (⟨hour, p.minute⟩ : PartialTime).resolve bound
  | none, .first => some .midnight
  | none, .last => some .lastMicrosecond

theorem resolve_eq_some {bound : Bound} {t : DateTime} :
    p.resolve bound = some t ↔ p.dayAt? bound = some t.date ∧ p.timeAt? bound = some t.time := by
  have h : p.resolve bound = (p.dayAt? bound).bind fun date => (p.timeAt? bound).bind fun time =>
      some ⟨date, time⟩ := by
    unfold resolve dayAt? timeAt?
    cases p.month <;> cases p.day <;> cases p.hour <;> cases bound <;> rfl
  rw [h, Option.bind_eq_some_iff]
  constructor
  · rintro ⟨date, hdate, h⟩
    obtain ⟨time, htime, h⟩ := Option.bind_eq_some_iff.1 h
    cases h
    exact ⟨hdate, htime⟩
  · rintro ⟨hdate, htime⟩
    exact ⟨t.date, hdate, Option.bind_eq_some_iff.2 ⟨t.time, htime, rfl⟩⟩

/-- The span is a year or month that ends with the calendar. -/
def EndsCalendar (p : PartialDateTime) : Prop :=
  p.day = none ∧ (⟨p.year, p.month⟩ : PartialDate).EndsCalendar

theorem dayAt?_last (hends : ¬ p.EndsCalendar) {first : Date} (h : p.dayAt? .first = some first) :
    ∃ last, p.dayAt? .last = some last ∧ first.year = p.year ∧ last.year = p.year ∧
      (compare first last).isLE := by
  unfold dayAt? at *
  cases hday : p.day with
  | none =>
    rw [hday] at h
    exact PartialDate.resolve_last (fun h => hends ⟨hday, h⟩) h
  | some day =>
    rw [hday] at h
    obtain ⟨month, -, hdate⟩ := Option.bind_eq_some_iff.1 h
    have hfirst := (Date.ofYmd?_eq_some_iff.1 hdate).1
    exact ⟨first, h, hfirst, hfirst, Date.isLE_compare rfl (Nat.le_refl _) (Nat.le_refl _)⟩

theorem timeAt?_last {first : Time} (h : p.timeAt? .first = some first) :
    ∃ last, p.timeAt? .last = some last ∧ first.nano = 0 ∧ last.nano = 999999000 ∧
      first.compareClock last = .lt := by
  unfold timeAt? at *
  cases hhour : p.hour with
  | none =>
    rw [hhour] at h
    cases h
    exact ⟨.lastMicrosecond, rfl, rfl, rfl, rfl⟩
  | some hour =>
    rw [hhour] at h
    exact PartialTime.resolve_last h

/-- **Last moment.** A span that has a first moment has a last one, which ends a later second,
unless it ends with the calendar. -/
theorem exists_last (hends : ¬ p.EndsCalendar) {first : DateTime}
    (h : p.resolve .first = some first) :
    ∃ last, p.resolve .last = some last ∧ first.date.year = p.year ∧ last.date.year = p.year ∧
      first.time.nano = 0 ∧ last.time.nano = 999999000 ∧ first.compareClock last = .lt := by
  obtain ⟨hday, htime⟩ := resolve_eq_some.1 h
  obtain ⟨date, hdate, hfirst, hlast, hle⟩ := dayAt?_last hends hday
  obtain ⟨time, htime, hfirst', hlast', hlt⟩ := timeAt?_last htime
  exact ⟨⟨date, time⟩, resolve_eq_some.2 ⟨hdate, htime⟩, hfirst, hlast, hfirst', hlast',
    DateTime.compareClock_eq_lt hle hlt⟩

/-- The ends of a span in a year of four digits. -/
theorem resolve_last (hyear : 0 ≤ p.year ∧ p.year ≤ 9999) {first : DateTime}
    (h : p.resolve .first = some first) :
    ∃ last, p.resolve .last = some last ∧ first.IsSpan last := by
  have hends : ¬ p.EndsCalendar := fun h => PartialDate.not_endsCalendar hyear.2 h.2
  obtain ⟨last, hlast, hfirst, hlast', hnano, hnano', hlt⟩ := exists_last hends h
  exact ⟨last, hlast, .of_year hfirst hyear, .of_year hlast' hyear, hnano, hnano', hlt⟩

theorem resolve_last_eq_none (h : p.EndsCalendar) : p.resolve .last = none := by
  have hday : p.dayAt? .last = none := by
    unfold dayAt?
    rw [h.1]
    exact PartialDate.resolve_last_eq_none h.2
  cases hlast : p.resolve .last with
  | none => rfl
  | some last =>
    rw [(resolve_eq_some.1 hlast).1] at hday
    cases hday

theorem hasEnds_iff {first : DateTime} (h : p.resolve .first = some first) :
    HasEnds p.resolve ↔ ¬ p.EndsCalendar := by
  refine hasEnds_iff_not h resolve_last_eq_none fun hends => ?_
  obtain ⟨last, hlast, -, -, -, -, hlt⟩ := exists_last hends h
  have hcompare : compare first last = .lt := by rw [DateTime.compare_eq, hlt]; rfl
  exact ⟨last, hlast, Ordering.isLE_of_eq_lt hcompare⟩

theorem ofComponents?_eq_some_iff {year : Int} {month day hour minute : Option Nat} :
    ofComponents? year month day hour minute = some p ↔
      p = ⟨year, month, day, hour, minute⟩ ∧ p.ordered ∧
        ∃ first, p.resolve .first = some first := by
  simp only [ofComponents?, Option.ite_none_right_eq_some, Option.some.injEq, Bool.and_eq_true,
    Option.isSome_iff_exists]
  constructor
  · rintro ⟨hfirst, rfl⟩
    exact ⟨rfl, hfirst⟩
  · rintro ⟨rfl, hfirst⟩
    exact ⟨hfirst, rfl⟩

end PartialDateTime

/-! ## Spans that are accepted -/

/-- **Ends of accepted spans.** A date, time or moment that is accepted as truncated has a first
moment, and it has both ends, in order, just if it is no year or month that ends with the
calendar. -/
theorem accepted_hasEnds_iff (year : Int) (month day hour minute : Option Nat) (hours : Nat) :
    (∀ p, PartialDate.ofComponents? year month = some p →
      (p.resolve .first).isSome ∧ (HasEnds p.resolve ↔ ¬ p.EndsCalendar)) ∧
    (∀ p, PartialTime.ofComponents? hours minute = some p → HasEnds p.resolve) ∧
    ∀ p, PartialDateTime.ofComponents? year month day hour minute = some p →
      (p.resolve .first).isSome ∧ (HasEnds p.resolve ↔ ¬ p.EndsCalendar) := by
  refine ⟨?date, ?time, ?moment⟩
  case date =>
    intro p h
    obtain ⟨-, first, hfirst⟩ := PartialDate.ofComponents?_eq_some_iff.1 h
    exact ⟨Option.isSome_iff_exists.2 ⟨first, hfirst⟩, PartialDate.hasEnds_iff hfirst⟩
  case time =>
    intro p h
    obtain ⟨-, first, hfirst⟩ := PartialTime.ofComponents?_eq_some_iff.1 h
    exact PartialTime.hasEnds hfirst
  case moment =>
    intro p h
    obtain ⟨-, -, first, hfirst⟩ := PartialDateTime.ofComponents?_eq_some_iff.1 h
    exact ⟨Option.isSome_iff_exists.2 ⟨first, hfirst⟩, PartialDateTime.hasEnds_iff hfirst⟩

/-- The last month but one of the calendar, the last minute of a day, and the last minute of that
month are accepted and have both ends. -/
theorem accepted_hasEnds_iff_late :
    PartialDate.ofComponents? maxYear (some 11) = some ⟨maxYear, some 11⟩ ∧
      HasEnds (PartialDate.resolve ⟨maxYear, some 11⟩) ∧
      PartialTime.ofComponents? 23 (some 59) = some ⟨23, some 59⟩ ∧
      HasEnds (PartialTime.resolve ⟨23, some 59⟩) ∧
      PartialDateTime.ofComponents? maxYear (some 11) (some 30) (some 23) (some 59) =
        some ⟨maxYear, some 11, some 30, some 23, some 59⟩ ∧
      HasEnds (PartialDateTime.resolve ⟨maxYear, some 11, some 30, some 23, some 59⟩) := by
  obtain ⟨hdate, htime, hmoment⟩ :=
    accepted_hasEnds_iff maxYear (some 11) (some 30) (some 23) (some 59) 23
  refine ⟨rfl, (hdate _ rfl).2.2 ?date, rfl, htime _ rfl, rfl, (hmoment _ rfl).2.2 ?moment⟩
  case date =>
    rintro ⟨-, hmonth⟩
    cases hmonth
  case moment =>
    rintro ⟨hday, -⟩
    cases hday

/-- The last year of the calendar is accepted and has a first day, but no last one. -/
theorem accepted_without_last :
    PartialDate.ofComponents? 262142 none = some ⟨262142, none⟩ ∧
      PartialDate.resolve ⟨262142, none⟩ .first = some ⟨262142, 1, 1, by decide⟩ ∧
      PartialDate.resolve ⟨262142, none⟩ .last = none ∧
      ¬ HasEnds (PartialDate.resolve ⟨262142, none⟩) := by
  have hlast : PartialDate.resolve ⟨262142, none⟩ .last = none := rfl
  refine ⟨rfl, rfl, hlast, ?_⟩
  rintro ⟨_, last, -, h, -⟩
  rw [hlast] at h
  cases h

/-! ## Spans that are read -/

theorem Number.digit?_lt (c : Char) : (digit? c).getD 0 < 10 := by
  unfold digit?
  split
  · rename_i h
    rw [Bool.and_eq_true, decide_eq_true_eq, decide_eq_true_eq] at h
    have hle : c.toNat ≤ 57 := h.2
    rw [Option.getD_some]
    omega
  · decide

theorem Number.ofDigits_lt (acc : Nat) (digits : List Char) :
    ofDigits acc digits < (acc + 1) * 10 ^ digits.length := by
  induction digits generalizing acc with
  | nil => simp [ofDigits]
  | cons c digits ih =>
    have hdigit := digit?_lt c
    calc ofDigits acc (c :: digits)
        < (10 * acc + (digit? c).getD 0 + 1) * 10 ^ digits.length := ih _
      _ ≤ ((acc + 1) * 10) * 10 ^ digits.length := Nat.mul_le_mul_right _ (by omega)
      _ = (acc + 1) * 10 ^ (c :: digits).length := by
        rw [List.length_cons, Nat.pow_succ', Nat.mul_assoc]

theorem Calendar.fixedWidth?_lt {width n : Nat} {text rest : List Char}
    (h : fixedWidth? width text = some (n, rest)) : n < 10 ^ width := by
  unfold fixedWidth? at h
  dsimp only at h
  split at h
  · rename_i hdigits
    cases h
    rw [Bool.and_eq_true, decide_eq_true_eq] at hdigits
    have hlt := Number.ofDigits_lt 0 (text.take width)
    rwa [hdigits.1, Nat.zero_add, Nat.one_mul] at hlt
  · cases h

theorem PartialDate.read?_ok {text : String} {p : PartialDate} (h : read? text = some p) :
    (0 ≤ p.year ∧ p.year ≤ 9999) ∧ ∃ first, p.resolve .first = some first := by
  unfold read? at h
  obtain ⟨⟨year, rest⟩, hyear, h⟩ := Option.bind_eq_some_iff.1 h
  obtain ⟨month, -, h⟩ := Option.bind_eq_some_iff.1 h
  have hlt := Calendar.fixedWidth?_lt hyear
  obtain ⟨rfl, hfirst⟩ := ofComponents?_eq_some_iff.1 h
  exact ⟨⟨Int.natCast_nonneg _, by dsimp only; omega⟩, hfirst⟩

theorem PartialTime.read?_ok {text : String} {p : PartialTime} (h : read? text = some p) :
    ∃ first, p.resolve .first = some first := by
  unfold read? at h
  obtain ⟨⟨hour, rest⟩, -, h⟩ := Option.bind_eq_some_iff.1 h
  obtain ⟨minute, -, h⟩ := Option.bind_eq_some_iff.1 h
  exact (ofComponents?_eq_some_iff.1 h).2

theorem PartialDateTime.read?_ok {text : String} {p : PartialDateTime} (h : read? text = some p) :
    (0 ≤ p.year ∧ p.year ≤ 9999) ∧ ∃ first, p.resolve .first = some first := by
  unfold read? at h
  obtain ⟨⟨year, rest⟩, hyear, h⟩ := Option.bind_eq_some_iff.1 h
  obtain ⟨⟨month, rest⟩, -, h⟩ := Option.bind_eq_some_iff.1 h
  obtain ⟨⟨day, rest⟩, -, h⟩ := Option.bind_eq_some_iff.1 h
  obtain ⟨⟨hour, rest⟩, -, h⟩ := Option.bind_eq_some_iff.1 h
  obtain ⟨minute, -, h⟩ := Option.bind_eq_some_iff.1 h
  have hlt := Calendar.fixedWidth?_lt hyear
  obtain ⟨rfl, -, hfirst⟩ := ofComponents?_eq_some_iff.1 h
  exact ⟨⟨Int.natCast_nonneg _, by dsimp only; omega⟩, hfirst⟩

end SearchQuery
