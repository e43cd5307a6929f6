import Mathlib.Tactic.Common
import SearchQuery.Proofs.Calendar.DayNumber

/-!
# Moves in time

A move by seconds ends where the calendar still has a day, and leaves a leap second for good.

* `exists_addSeconds?_iff`: which moves stay inside the calendar.
* `addSeconds?_add`: two moves the same way are one move by the sum of their seconds.
-/

namespace SearchQuery.DateTime

/-- The second that a move by `seconds` ends in, counted from the start of day 0. -/
def targetSecond (t : DateTime) (seconds : Int) : Int :=
  86400 * t.date.dayNumber + moveStart t.time seconds + seconds

/-- A move by `seconds` ends inside the calendar. A move by nothing stays where it is, be it in the
leap second after the last day. -/
def Reaches (t : DateTime) (seconds : Int) : Prop :=
  seconds = 0 ∨ 86400 * Date.first.dayNumber ≤ t.targetSecond seconds ∧
    t.targetSecond seconds < 86400 * (Date.last.dayNumber + 1)

instance (t : DateTime) (seconds : Int) : Decidable (t.Reaches seconds) :=
  inferInstanceAs (Decidable (_ ∨ _))

section Moves

variable {t u : DateTime} {seconds : Int}

@[simp] theorem addSeconds?_zero (t : DateTime) : t.addSeconds? 0 = some t := by
  rw [addSeconds?, if_pos rfl]

/-- A second of the day is the time at it, which is no leap second. -/
theorem ofSecondOfDay?_of_lt {second nano : Nat} (hsecond : second < 86400)
    (hnano : nano < 1000000000) : ∃ time, Time.ofSecondOfDay? second nano = some time ∧
      time.secondOfDay = second ∧ time.inLeapSecond = false ∧ time.nano = nano := by
  have htime : IsTime (second / 3600) (second / 60 % 60) (second % 60) nano :=
    ⟨by omega, by omega, by omega, hnano⟩
  refine ⟨⟨_, _, _, _, htime⟩, dif_pos htime, ?_, ?_, rfl⟩
  · simp only [Time.secondOfDay]
    omega
  · simp only [Time.inLeapSecond, decide_eq_false_iff_not]
    omega

/-- A move goes to the day and the second of the day that its target second is in. -/
theorem addSeconds?_eq (h : seconds ≠ 0) : t.addSeconds? seconds =
    (Date.ofDayNumber? (t.targetSecond seconds / 86400)).bind fun date =>
      (Time.ofSecondOfDay? (t.targetSecond seconds % 86400).toNat t.time.nano).map fun time =>
        ⟨date, time⟩ := by
  have hday : t.date.dayNumber + (moveStart t.time seconds + seconds) / 86400 =
      t.targetSecond seconds / 86400 := by
    unfold targetSecond
    omega
  have hsecond : (moveStart t.time seconds + seconds) % 86400 =
      t.targetSecond seconds % 86400 := by
    unfold targetSecond
    omega
  rw [addSeconds?, if_neg h]
  dsimp only
  rw [Date.addDays?, hday, hsecond]
  cases Date.ofDayNumber? (t.targetSecond seconds / 86400) with
  | none => rfl
  | some date =>
    cases Time.ofSecondOfDay? (t.targetSecond seconds % 86400).toNat t.time.nano <;> rfl

/-- The time of day of a target. -/
theorem exists_time (t : DateTime) (second : Int) : ∃ time : Time,
    Time.ofSecondOfDay? (second % 86400).toNat t.time.nano = some time ∧
      (time.secondOfDay : Int) = second % 86400 ∧ time.inLeapSecond = false ∧
      time.nano = t.time.nano := by
  have hlt : (second % 86400).toNat < 86400 := by omega
  obtain ⟨time, htime, hsecond, hleap, hnano⟩ := ofSecondOfDay?_of_lt hlt t.time.isTime.2.2.2
  exact ⟨time, htime, by omega, hleap, hnano⟩

/-- A move stays inside the calendar just if its target second is in one of the days. -/
theorem exists_addSeconds?_iff : (∃ u, t.addSeconds? seconds = some u) ↔ t.Reaches seconds := by
  by_cases h : seconds = 0
  · subst h
    simp [Reaches]
  · obtain ⟨time, htime, -⟩ := exists_time t (t.targetSecond seconds)
    have hdays : (∃ date, Date.ofDayNumber? (t.targetSecond seconds / 86400) = some date) ↔
        t.Reaches seconds := by
      rw [Date.exists_ofDayNumber?_iff, Reaches]
      omega
    rw [addSeconds?_eq h, htime, ← hdays]
    cases Date.ofDayNumber? (t.targetSecond seconds / 86400) <;> simp

theorem addSeconds?_eq_none_iff : t.addSeconds? seconds = none ↔ ¬ t.Reaches seconds := by
  rw [← exists_addSeconds?_iff, Option.eq_none_iff_forall_ne_some, not_exists]

/-- Where a move ends. -/
theorem targetSecond_of_addSeconds? (hne : seconds ≠ 0) (h : t.addSeconds? seconds = some u)
    (more : Int) : u.targetSecond more = t.targetSecond seconds + more ∧
      u.time.nano = t.time.nano := by
  obtain ⟨time, htime, hsecond, hleap, hnano⟩ := exists_time t (t.targetSecond seconds)
  rw [addSeconds?_eq hne, htime] at h
  obtain ⟨date, hdate, hu⟩ := Option.bind_eq_some_iff.1 h
  cases hu
  rw [Date.ofDayNumber?_eq_some_iff] at hdate
  have hstart : moveStart time more = time.secondOfDay := by
    simp [moveStart, hleap]
  refine ⟨?_, hnano⟩
  change 86400 * date.dayNumber + moveStart time more + more = t.targetSecond seconds + more
  omega

end Moves

section SameWay

variable {t : DateTime} {a b : Int}

/-- Two moves go the same way in time. -/
def SameWay (a b : Int) : Prop := 0 ≤ a ∧ 0 ≤ b ∨ a ≤ 0 ∧ b ≤ 0

/-- A leap second is left the same way by a move and by one that goes on. -/
theorem targetSecond_add (h : SameWay a b) (ha : a ≠ 0) :
    t.targetSecond (a + b) = t.targetSecond a + b := by
  have hpositive : 0 < a + b ↔ 0 < a := by
    unfold SameWay at h
    omega
  simp only [targetSecond, moveStart, hpositive]
  omega

/-- On the way to a moment of the calendar lie moments of the calendar. -/
theorem Reaches.of_add (h : SameWay a b) (hreaches : t.Reaches (a + b)) : t.Reaches a := by
  by_cases ha : a = 0
  · exact .inl ha
  · have htarget := targetSecond_add (t := t) h ha
    obtain ⟨hfirst, hlast⟩ :=
      Date.exists_ofDayNumber?_iff.1 ⟨t.date, Date.ofDayNumber?_dayNumber t.date⟩
    obtain ⟨hhour, hminute, hsecond, -⟩ := t.time.isTime
    have hstart : (moveStart t.time a : Int) ≤ 86400 := by
      unfold moveStart Time.secondOfDay
      split <;> omega
    have hown : t.targetSecond a = 86400 * t.date.dayNumber + moveStart t.time a + a := rfl
    unfold Reaches SameWay at *
    omega

/-- **Moves add up.** Two moves the same way are one move by the sum of their seconds. -/
theorem addSeconds?_add (h : SameWay a b) :
    (t.addSeconds? a).bind (·.addSeconds? b) = t.addSeconds? (a + b) := by
  by_cases ha : a = 0
  · subst ha
    rw [addSeconds?_zero, Option.bind_some, Int.zero_add]
  cases hmove : t.addSeconds? a with
  | none =>
    have hreaches : ¬ t.Reaches (a + b) :=
      fun hsum => addSeconds?_eq_none_iff.1 hmove (hsum.of_add h)
    rw [Option.bind_none, addSeconds?_eq_none_iff.2 hreaches]
  | some u =>
    rw [Option.bind_some]
    by_cases hb : b = 0
    · subst hb
      rw [addSeconds?_zero, Int.add_zero, hmove]
    · have hab : a + b ≠ 0 := by
        unfold SameWay at h
        omega
      obtain ⟨htarget, hnano⟩ := targetSecond_of_addSeconds? ha hmove b
      rw [addSeconds?_eq hb, addSeconds?_eq hab, htarget, hnano, targetSecond_add h ha]

end SameWay

end SearchQuery.DateTime
