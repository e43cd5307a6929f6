import SearchQuery.Calendar.DateTime
import SearchQuery.Proofs.Text.Order

/-!
# The order of moments

Dates compare by year, month and day, and times by hour, minute, second and nanosecond. Where years
have four digits, the texts of dates, times and local moments are in the order of time
(`Date.compare_text`, `Time.compare_text`, `DateTime.compare_text`).

The text of a moment of universal time ends in a `Z`, which comes after a point and after digits. So
`DateTime.compare_utcText` gets as far as the second, and within a second only the first and the
last moment of spans are compared (`DateTime.isGE_compare_utcTail`, `DateTime.isLE_compare_utcTail`).
-/

namespace SearchQuery

open Text Number

/-- Dates in the order of time. -/
instance : Ord Date where
  compare a b :=
    (compare a.year b.year).then ((compare a.month b.month).then (compare a.day b.day))

theorem compare_date (a b : Date) : compare a b =
    (compare a.year b.year).then ((compare a.month b.month).then (compare a.day b.day)) := rfl

namespace Time

/-- The order of the seconds that two times fall into. -/
def compareClock (a b : Time) : Ordering :=
  (compare a.hour b.hour).then ((compare a.minute b.minute).then (compare a.second b.second))

end Time

/-- Times of day in the order of time. -/
instance : Ord Time where
  compare a b := (a.compareClock b).then (compare a.nano b.nano)

namespace DateTime

/-- The order of the seconds that two moments fall into. -/
def compareClock (a b : DateTime) : Ordering :=
  (compare a.date b.date).then (a.time.compareClock b.time)

end DateTime

/-- Moments in the order of time. -/
instance : Ord DateTime where
  compare a b := (compare a.date b.date).then (compare a.time b.time)

/-! ## Dates -/

namespace Date

/-- The year is written without a sign. -/
def InFourDigits (d : Date) : Prop := 0 ≤ d.year ∧ d.year ≤ 9999

instance (d : Date) : Decidable d.InFourDigits := inferInstanceAs (Decidable (_ ∧ _))

theorem InFourDigits.of_year {d : Date} {year : Int} (h : d.year = year)
    (hyear : 0 ≤ year ∧ year ≤ 9999) : d.InFourDigits := by
  rwa [InFourDigits, h]

theorem month_lt (d : Date) : d.month < 100 := by
  have h := d.isDate.2.2.2.1
  omega

theorem day_lt (d : Date) : d.day < 100 := by
  have h := d.isDate.2.2.2.2.2
  have hdays : daysInMonth d.year d.month ≤ 31 := by
    unfold daysInMonth
    repeat' split
    all_goals omega
  omega

theorem compare_natAbs {a b : Int} (ha : 0 ≤ a) (hb : 0 ≤ b) :
    compare a.natAbs b.natAbs = compare a b := by
  rcases Int.lt_trichotomy a b with hlt | heq | hgt
  · rw [Nat.compare_eq_lt.2 (by omega), Int.compare_eq_lt.2 hlt]
  · rw [heq, Std.ReflOrd.compare_self, Std.ReflOrd.compare_self]
  · rw [Nat.compare_eq_gt.2 (by omega), Int.compare_eq_gt.2 hgt]

theorem text_toList {d : Date} (h : d.InFourDigits) :
    d.text.toList = (padded 4 d.year.natAbs).toList ++
      '-' :: ((padded 2 d.month).toList ++ '-' :: (padded 2 d.day).toList) := by
  rw [text, yearText, if_neg (Int.not_lt.2 h.1), if_pos h.2]
  simp [String.toList_append]

/-- Texts that start with dates compare by the dates first. -/
theorem compare_text_append {a b : Date} (ha : a.InFourDigits) (hb : b.InFourDigits)
    (xs ys : List Char) :
    compare (a.text.toList ++ xs) (b.text.toList ++ ys) = (compare a b).then (compare xs ys) := by
  have hyear {d : Date} (h : d.InFourDigits) : d.year.natAbs < 10 ^ 4 := by
    obtain ⟨hfirst, hlast⟩ := h
    omega
  rw [text_toList ha, text_toList hb]
  simp only [List.append_assoc, List.cons_append]
  rw [compare_padded_append (by omega) (hyear ha) (hyear hb), compare_cons_self,
    compare_padded_append (by omega) a.month_lt b.month_lt, compare_cons_self,
    compare_padded_append (by omega) a.day_lt b.day_lt, compare_natAbs ha.1 hb.1]
  simp only [compare_date, Ordering.then_assoc]

/-- Dates of one year are in order if their months and days are. -/
theorem isLE_compare {a b : Date} (hyear : a.year = b.year) (hmonth : a.month ≤ b.month)
    (hday : a.day ≤ b.day) : (compare a b).isLE := by
  rw [compare_date, hyear, Std.ReflOrd.compare_self, Ordering.eq_then, Ordering.isLE_then_iff_and]
  exact ⟨Nat.isLE_compare.2 hmonth, .inr (Nat.isLE_compare.2 hday)⟩

/-- Dates are written in the order of time. -/
theorem compare_text {a b : Date} (ha : a.InFourDigits) (hb : b.InFourDigits) :
    compare a.text b.text = compare a b := by
  have h := compare_text_append ha hb [] []
  rwa [List.append_nil, List.append_nil, List.compare_nil_nil, Ordering.then_eq,
    ← compare_toList] at h

end Date

/-! ## Fractions of a second -/

namespace Time

/-- Groups of three digits as far as some digit is not zero. -/
def groupsText : List Nat → List Char
  | [] => []
  | group :: groups =>
    if ∀ g ∈ group :: groups, g = 0 then [] else (padded 3 group).toList ++ groupsText groups

/-- The groups of three digits of a fraction. -/
def groups (nano : Nat) : List Nat := [nano / 10 ^ 6, nano / 10 ^ 3 % 10 ^ 3, nano % 10 ^ 3]

theorem groups_lt {nano : Nat} (h : nano < 10 ^ 9) : ∀ g ∈ groups nano, g < 10 ^ 3 := by
  simp only [groups, List.mem_cons, List.not_mem_nil, or_false, forall_eq_or_imp, forall_eq]
  omega

theorem compare_groups (m n : Nat) : compare (groups m) (groups n) = compare m n := by
  rw [compare_div_mod (show 0 < 10 ^ 3 by omega) m n,
    compare_div_mod (show 0 < 10 ^ 3 by omega) (m / 10 ^ 3) (n / 10 ^ 3), Nat.div_div_eq_div_mul,
    Nat.div_div_eq_div_mul, ← Nat.pow_add]
  simp only [groups, List.compare_cons_cons, List.compare_nil_nil, Ordering.then_eq,
    Ordering.then_assoc]

theorem groupsText_of_zeros {groups : List Nat} (h : ∀ g ∈ groups, g = 0) :
    groupsText groups = [] := by
  cases groups with
  | nil => rfl
  | cons group groups => exact if_pos h

theorem groupsText_cons {group : Nat} {groups : List Nat} (h : ¬ ∀ g ∈ group :: groups, g = 0) :
    groupsText (group :: groups) = (padded 3 group).toList ++ groupsText groups := if_neg h

theorem fractionText_toList (nano : Nat) : (fractionText nano).toList =
    if nano = 0 then [] else '.' :: groupsText (groups nano) := by
  unfold fractionText groups
  by_cases hzero : nano = 0
  · rw [if_pos hzero, if_pos hzero]
    rfl
  rw [if_neg hzero, if_neg hzero, groupsText_cons (by simp; omega)]
  by_cases hmilli : nano % 1000000 = 0
  · rw [if_pos hmilli, groupsText_of_zeros (by simp; omega), List.append_nil]
    simp
  rw [if_neg hmilli, groupsText_cons (by simp; omega)]
  by_cases hmicro : nano % 1000 = 0
  · rw [if_pos hmicro, groupsText_of_zeros (by simp; omega), List.append_nil]
    have h := padded_add (i := 3) (j := 3) (by omega) (by omega) (nano / 1000)
    rw [Nat.div_div_eq_div_mul] at h
    simp [h]
  · rw [if_neg hmicro, groupsText_cons (by simp; omega), groupsText_of_zeros (by simp),
      List.append_nil]
    have h := padded_add (i := 6) (j := 3) (by omega) (by omega) nano
    have h' := padded_add (i := 3) (j := 3) (by omega) (by omega) (nano / 1000)
    rw [Nat.div_div_eq_div_mul] at h'
    simp [h, h']

/-- Zeros are less than anything else of their length. -/
theorem compare_zeros {xs ys : List Nat} (hlength : xs.length = ys.length)
    (hxs : ∀ x ∈ xs, x = 0) (hys : ¬ ∀ y ∈ ys, y = 0) : compare xs ys = .lt := by
  induction xs generalizing ys with
  | nil =>
    obtain rfl := List.eq_nil_of_length_eq_zero hlength.symm
    exact absurd (List.forall_mem_nil _) hys
  | cons x xs ih =>
    cases ys with
    | nil => cases hlength
    | cons y ys =>
      rw [List.forall_mem_cons] at hxs hys
      rw [List.compare_cons_cons, hxs.1]
      by_cases hy : y = 0
      · rw [hy, Std.ReflOrd.compare_self, Ordering.eq_then]
        exact ih (Nat.succ.inj hlength) hxs.2 fun hys' => hys ⟨hy, hys'⟩
      · rw [Nat.compare_eq_lt.2 (Nat.pos_of_ne_zero hy), Ordering.lt_then]

theorem compare_nil_groupsText {groups : List Nat} (hbound : ∀ g ∈ groups, g < 10 ^ 3)
    (h : ¬ ∀ g ∈ groups, g = 0) : compare [] (groupsText groups) = .lt := by
  cases groups with
  | nil => exact absurd (List.forall_mem_nil _) h
  | cons group groups =>
    have hlength := length_padded (show 0 < 3 by omega) (hbound group List.mem_cons_self)
    rw [groupsText_cons h]
    cases htext : (padded 3 group).toList with
    | nil =>
      rw [htext] at hlength
      cases hlength
    | cons c text => rw [List.cons_append, List.compare_nil_cons]

/-- Zeros at the end take no part in the order. -/
theorem compare_groupsText {xs ys : List Nat} (hlength : xs.length = ys.length)
    (hxs : ∀ x ∈ xs, x < 10 ^ 3) (hys : ∀ y ∈ ys, y < 10 ^ 3) :
    compare (groupsText xs) (groupsText ys) = compare xs ys := by
  induction xs generalizing ys with
  | nil =>
    obtain rfl := List.eq_nil_of_length_eq_zero hlength.symm
    rfl
  | cons x xs ih =>
    cases ys with
    | nil => cases hlength
    | cons y ys =>
      by_cases hx : ∀ g ∈ x :: xs, g = 0 <;> by_cases hy : ∀ g ∈ y :: ys, g = 0
      · have heq : x :: xs = y :: ys := by
          rw [List.eq_replicate_of_mem hx, List.eq_replicate_of_mem hy, hlength]
        rw [heq, Std.ReflOrd.compare_self, Std.ReflOrd.compare_self]
      · rw [groupsText_of_zeros hx, compare_nil_groupsText hys hy, compare_zeros hlength hx hy]
      · rw [groupsText_of_zeros hy, Std.OrientedOrd.eq_swap, compare_nil_groupsText hxs hx,
          Std.OrientedOrd.eq_swap (a := x :: xs), compare_zeros hlength.symm hy hx]
      · rw [List.forall_mem_cons] at hxs hys
        rw [groupsText_cons hx, groupsText_cons hy,
          compare_padded_append (by omega) hxs.1 hys.1, List.compare_cons_cons,
          ih (Nat.succ.inj hlength) hxs.2 hys.2]

/-- Fractions are written in the order of time. -/
theorem compare_fractionText {m n : Nat} (hm : m < 10 ^ 9) (hn : n < 10 ^ 9) :
    compare (fractionText m).toList (fractionText n).toList = compare m n := by
  rw [fractionText_toList, fractionText_toList]
  by_cases hm' : m = 0 <;> by_cases hn' : n = 0
  · rw [if_pos hm', if_pos hn', hm', hn']
    rfl
  · rw [if_pos hm', if_neg hn', List.compare_nil_cons, hm',
      Nat.compare_eq_lt.2 (Nat.pos_of_ne_zero hn')]
  · rw [if_neg hm', if_pos hn', List.compare_cons_nil, hn',
      Nat.compare_eq_gt.2 (Nat.pos_of_ne_zero hm')]
  · rw [if_neg hm', if_neg hn', compare_cons_self,
      compare_groupsText (show (groups m).length = (groups n).length from rfl) (groups_lt hm)
        (groups_lt hn), compare_groups]

/-! ## Times of day -/

theorem text_toList (t : Time) : t.text.toList =
    (padded 2 t.hour).toList ++ ':' :: ((padded 2 t.minute).toList ++
      ':' :: ((padded 2 t.second).toList ++ (fractionText t.nano).toList)) := by
  simp [text, String.toList_append]

/-- Texts that start with times compare by their seconds first. -/
theorem compare_text_append (a b : Time) (xs ys : List Char) :
    compare (a.text.toList ++ xs) (b.text.toList ++ ys) =
      (a.compareClock b).then
        (compare ((fractionText a.nano).toList ++ xs) ((fractionText b.nano).toList ++ ys)) := by
  have hhour (t : Time) : t.hour < 10 ^ 2 := Nat.lt_trans t.isTime.1 (by omega)
  have hminute (t : Time) : t.minute < 10 ^ 2 := Nat.lt_trans t.isTime.2.1 (by omega)
  have hsecond (t : Time) : t.second < 10 ^ 2 := Nat.lt_of_le_of_lt t.isTime.2.2.1 (by omega)
  rw [text_toList, text_toList]
  simp only [List.append_assoc, List.cons_append]
  rw [compare_padded_append (by omega) (hhour a) (hhour b), compare_cons_self,
    compare_padded_append (by omega) (hminute a) (hminute b), compare_cons_self,
    compare_padded_append (by omega) (hsecond a) (hsecond b)]
  simp only [compareClock, Ordering.then_assoc]

/-- Times are written in the order of time. -/
theorem compare_text (a b : Time) : compare a.text b.text = compare a b := by
  have h := compare_text_append a b [] []
  rwa [List.append_nil, List.append_nil, List.append_nil, List.append_nil,
    compare_fractionText a.isTime.2.2.2 b.isTime.2.2.2, ← compare_toList] at h

end Time

/-! ## Moments -/

namespace DateTime

theorem text_toList (t : DateTime) :
    t.text.toList = t.date.text.toList ++ 'T' :: t.time.text.toList := by
  simp [text, String.toList_append]

/-- Local moments are written in the order of time. -/
theorem compare_text {a b : DateTime} (ha : a.date.InFourDigits) (hb : b.date.InFourDigits) :
    compare a.text b.text = compare a b := by
  rw [compare_toList, text_toList, text_toList, Date.compare_text_append ha hb, compare_cons_self,
    ← compare_toList, Time.compare_text]
  rfl

/-- What follows the seconds of a moment of universal time. -/
def utcTail (t : DateTime) : List Char := (Time.fractionText t.time.nano).toList ++ ['Z']

/-- Moments of universal time are written in the order of their seconds. -/
theorem compare_utcText {a b : DateTime} (ha : a.date.InFourDigits) (hb : b.date.InFourDigits) :
    compare a.utcText b.utcText = (a.compareClock b).then (compare a.utcTail b.utcTail) := by
  have htext (t : DateTime) :
      t.utcText.toList = t.date.text.toList ++ 'T' :: (t.time.text.toList ++ ['Z']) := by
    rw [utcText, String.toList_append, text_toList, List.append_assoc, List.cons_append]
    rfl
  rw [compare_toList, htext, htext, Date.compare_text_append ha hb, compare_cons_self,
    Time.compare_text_append, ← Ordering.then_assoc]
  rfl

/-- Nothing in the second that follows a `Z` at once comes after it. -/
theorem isGE_compare_utcTail {s : DateTime} (hs : s.time.nano = 0) (t : DateTime) :
    (compare t.utcTail s.utcTail).isGE ↔ t.time.nano = 0 := by
  have htail : s.utcTail = ['Z'] := by
    rw [utcTail, hs]
    rfl
  rw [htail, utcTail, Time.fractionText_toList]
  by_cases hzero : t.time.nano = 0
  · rw [if_pos hzero]
    exact iff_of_true rfl hzero
  · rw [if_neg hzero, List.cons_append, List.compare_cons_cons]
    exact iff_of_false (by simp [show compare '.' 'Z' = .lt from rfl]) hzero

theorem compare_padded_mark {n : Nat} (h : n < 10 ^ 3) :
    compare ((padded 3 n).toList ++ ['Z']) ['Z'] = .lt := by
  have hdigit : ∀ i : Fin 10, compare i.val.digitChar 'Z' = .lt := by decide
  have hlead := hdigit ⟨n / 10 ^ 2, by omega⟩
  rw [padded_add (i := 1) (j := 2) (by omega) (by omega), padded_one (by omega), List.append_assoc,
    List.singleton_append, List.compare_cons_cons, hlead, Ordering.lt_then]

theorem isLE_compare_utcTail {e : DateTime} (he : e.time.nano = 999999000) (t : DateTime) :
    (compare t.utcTail e.utcTail).isLE ↔ t.time.nano ≠ 0 ∧ t.time.nano ≠ 999000000 := by
  have htail : e.utcTail = '.' :: ((padded 3 999).toList ++ ((padded 3 999).toList ++ ['Z'])) := by
    rw [utcTail, he]
    rfl
  have hnano := t.time.isTime.2.2.2
  have hbound := Time.groups_lt hnano
  rw [htail, utcTail, Time.fractionText_toList]
  by_cases hzero : t.time.nano = 0
  · rw [if_pos hzero]
    exact iff_of_false (by decide) fun h => h.1 hzero
  rw [if_neg hzero, List.cons_append, compare_cons_self, Time.groups,
    Time.groupsText_cons (by simp; omega), List.append_assoc,
    compare_padded_append (by omega) (by omega) (by omega), Ordering.isLE_then_iff_or,
    Nat.compare_eq_lt, Nat.compare_eq_eq]
  by_cases hmilli : t.time.nano % 10 ^ 6 = 0
  · rw [Time.groupsText_of_zeros (by simp; omega)]
    have hmark : ¬ (compare ([] ++ ['Z']) ((padded 3 999).toList ++ ['Z'])).isLE := by decide
    rw [or_iff_left fun h => hmark h.2]
    omega
  rw [Time.groupsText_cons (by simp; omega), List.append_assoc,
    compare_padded_append (by omega) (by omega) (by omega), Ordering.isLE_then_iff_or,
    Nat.compare_eq_lt, Nat.compare_eq_eq]
  have hmark : (compare (Time.groupsText [t.time.nano % 10 ^ 3] ++ ['Z']) ['Z']).isLE := by
    by_cases hmicro : t.time.nano % 10 ^ 3 = 0
    · rw [Time.groupsText_of_zeros (by simpa using hmicro)]
      rfl
    · rw [Time.groupsText_cons (by simpa using hmicro), Time.groupsText, List.append_nil,
        compare_padded_mark (by omega)]
      rfl
  simp only [hmark, and_true]
  omega

/-- Moments of one second are in one order to any other second. -/
theorem compareClock_congr {a b : DateTime} (h : a.compareClock b = .eq) (c : DateTime) :
    a.compareClock c = b.compareClock c := by
  have hdate : a.date.year = b.date.year ∧ a.date.month = b.date.month ∧
      a.date.day = b.date.day := by
    have hdate := (Ordering.then_eq_eq.1 h).1
    simpa only [compare_date, Ordering.then_eq_eq, Nat.compare_eq_eq, Int.compare_eq_eq] using hdate
  have htime : a.time.hour = b.time.hour ∧ a.time.minute = b.time.minute ∧
      a.time.second = b.time.second := by
    simpa only [Time.compareClock, Ordering.then_eq_eq, Nat.compare_eq_eq] using
      (Ordering.then_eq_eq.1 h).2
  simp only [compareClock, compare_date, Time.compareClock, hdate, htime]

theorem compareClock_swap (a b : DateTime) : (a.compareClock b).swap = b.compareClock a := by
  simp only [compareClock, compare_date, Time.compareClock, Ordering.swap_then, Nat.compare_swap,
    Int.compare_swap]

theorem compare_eq (a b : DateTime) :
    compare a b = (a.compareClock b).then (compare a.time.nano b.time.nano) := by
  rw [compareClock, Ordering.then_assoc]
  rfl

end DateTime

end SearchQuery
