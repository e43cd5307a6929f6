import Mathlib.Data.List.TakeWhile
import Mathlib.Tactic.Common
import SearchQuery.Calendar.Partial
import SearchQuery.Proofs.Calendar.DayNumber
import SearchQuery.Proofs.Calendar.Span
import SearchQuery.Proofs.Number.Digits

/-!
# Dates and times read back

A date, a time and a local moment are read of their texts, whatever their year is
(`readDate?_text`, `readTime?_text`, `readMoment?_text`). The text of a moment of universal time
ends in its offset, which is only read after a year of four digits (`readMoment?_utcText`).

The text of a truncated date or time is no full one, and is read back as what it was
(`PartialDate.read?_text`, `PartialTime.read?_text`, `PartialDateTime.read?_text`).
-/

namespace SearchQuery

open Number

namespace Calendar

variable {width n : Nat} {text rest : List Char}

/-! ## Numbers -/

/-- What follows a number is not taken for its next digit. -/
def StopsNumber (rest : List Char) : Prop := ∀ c ∈ rest.head?, isDigit c = false

theorem takeWhile_isDigit (htext : ∀ c ∈ text, c.isDigit) (hrest : StopsNumber rest) :
    (text ++ rest).takeWhile isDigit = text := by
  rw [List.takeWhile_append_of_pos fun c hc => isDigit_of_isDigit (htext c hc)]
  cases rest with
  | nil => rw [List.takeWhile_nil, List.append_nil]
  | cons c rest => rw [List.takeWhile_cons_of_neg (by simp [hrest c rfl]), List.append_nil]

/-- A number whose field is wide enough is read up to its last digit. -/
theorem number?_append (hne : text ≠ []) (htext : ∀ c ∈ text, c.isDigit)
    (hwidth : text.length ≤ width) (hrest : text.length < width → StopsNumber rest) :
    number? width (text ++ rest) = some (ofDigits 0 text, rest) := by
  have hdigits : ((text ++ rest).take width).takeWhile isDigit = text := by
    rw [List.take_append, List.take_of_length_le hwidth]
    by_cases hlt : text.length < width
    · refine takeWhile_isDigit htext fun c hc => hrest hlt c ?_
      cases rest with
      | nil => simp at hc
      | cons d rest =>
        obtain ⟨k, hk⟩ : ∃ k, width - text.length = k + 1 := ⟨width - text.length - 1, by omega⟩
        rw [hk] at hc
        exact hc
    · rw [Nat.sub_eq_zero_of_le (Nat.le_of_not_lt hlt), List.take_zero]
      exact takeWhile_isDigit htext (by simp [StopsNumber])
  rw [number?, hdigits, if_neg (by simpa using hne), List.drop_left]

theorem number?_padded (hwidth : 0 < width) (hn : n < 10 ^ width) (rest : List Char) :
    number? width ((padded width n).toList ++ rest) = some (n, rest) := by
  have hlength := Text.length_padded hwidth hn
  rw [number?_append (padded_ne_nil width n) (fun c => isDigit_of_mem_padded)
    (Nat.le_of_eq hlength) (fun hlt => absurd hlength (Nat.ne_of_lt hlt)), ofDigits_padded]

theorem isWhiteSpace_of_isDigit {c : Char} (h : c.isDigit) : isWhiteSpace c = false := by
  simp only [Char.isDigit, Bool.and_eq_true, decide_eq_true_eq] at h
  have hlow : 48 ≤ c.toNat := h.1
  have hhigh : c.toNat ≤ 57 := h.2
  simp [isWhiteSpace]
  omega

theorem skipBlanks_of_isDigit (hne : text ≠ []) (htext : ∀ c ∈ text, c.isDigit)
    (rest : List Char) : skipBlanks (text ++ rest) = text ++ rest := by
  obtain ⟨c, cs, rfl⟩ := List.exists_cons_of_ne_nil hne
  have hc := isWhiteSpace_of_isDigit (htext c List.mem_cons_self)
  exact List.dropWhile_cons_of_neg (by simp [hc])

theorem field?_padded (hn : n < 100) (rest : List Char) :
    field? 2 ((padded 2 n).toList ++ rest) = some (n, rest) := by
  rw [field?, skipBlanks_of_isDigit (padded_ne_nil 2 n) fun c => isDigit_of_mem_padded,
    number?_padded (by decide) hn]

theorem fixedWidth?_padded (hwidth : 0 < width) (hn : n < 10 ^ width) (rest : List Char) :
    fixedWidth? width ((padded width n).toList ++ rest) = some (n, rest) := by
  have hlength := Text.length_padded hwidth hn
  have htake : ((padded width n).toList ++ rest).take width = (padded width n).toList :=
    List.take_left' hlength
  have hdigits : (padded width n).toList.all isDigit := by
    rw [List.all_eq_true]
    exact fun c hc => isDigit_of_isDigit (isDigit_of_mem_padded hc)
  rw [fixedWidth?, htake, hdigits, hlength, if_pos (by simp), ofDigits_padded,
    List.drop_left' hlength]

@[simp] theorem literal?_cons (c : Char) (rest : List Char) : literal? c (c :: rest) = some rest :=
  if_pos rfl

/-! ## Dates -/

/-- Without a sign a year has up to four digits. -/
theorem year?_of_isDigit (hne : text ≠ []) (htext : ∀ c ∈ text, c.isDigit) (rest : List Char) :
    year? (text ++ rest) = (number? 4 (text ++ rest)).map fun (n, rest) => ((n : Int), rest) := by
  rw [year?, skipBlanks_of_isDigit hne htext]
  obtain ⟨c, cs, rfl⟩ := List.exists_cons_of_ne_nil hne
  have hc := htext c List.mem_cons_self
  split
  · rename_i hsign
    cases hsign
    cases hc
  · rename_i hsign
    cases hsign
    cases hc
  · rfl

theorem year?_padded (hn : n < 10 ^ 4) (rest : List Char) :
    year? ((padded 4 n).toList ++ rest) = some ((n : Int), rest) := by
  rw [year?_of_isDigit (padded_ne_nil 4 n) fun c => isDigit_of_mem_padded,
    number?_padded (by decide) hn]
  rfl

/-- After a sign a year has any number of digits. -/
theorem number?_padded_all (width n : Nat) (hrest : StopsNumber rest) :
    number? ((padded width n).toList ++ rest).length ((padded width n).toList ++ rest) =
      some (n, rest) := by
  rw [number?_append (padded_ne_nil width n) (fun c => isDigit_of_mem_padded) (by simp)
    fun _ => hrest, ofDigits_padded]

theorem year?_yearText (year : Int) (hrest : StopsNumber rest) :
    year? ((Date.yearText year).toList ++ rest) = some (year, rest) := by
  have hskip {c : Char} (hc : isWhiteSpace c = false) (text : List Char) :
      skipBlanks (c :: text) = c :: text := List.dropWhile_cons_of_neg (by simp [hc])
  unfold Date.yearText
  split
  · have htext : ("-" ++ padded 4 year.natAbs).toList ++ rest =
        '-' :: ((padded 4 year.natAbs).toList ++ rest) := by simp
    have hyear : -(year.natAbs : Int) = year := by omega
    rw [htext, year?, hskip (by decide)]
    simp only [number?_padded_all 4 year.natAbs hrest, Option.map_some, hyear]
  split
  · have hyear : (year.natAbs : Int) = year := by omega
    rw [year?_padded (by omega), hyear]
  · have htext : ("+" ++ padded 4 year.natAbs).toList ++ rest =
        '+' :: ((padded 4 year.natAbs).toList ++ rest) := by simp
    have hyear : (year.natAbs : Int) = year := by omega
    rw [htext, year?, hskip (by decide)]
    simp only [number?_padded_all 4 year.natAbs hrest, Option.map_some, hyear]

theorem date_toList (d : Date) : d.text.toList = (Date.yearText d.year).toList ++
    '-' :: ((padded 2 d.month).toList ++ '-' :: (padded 2 d.day).toList) := by
  simp [Date.text]

theorem date?_text (d : Date) (rest : List Char) :
    date? (d.text.toList ++ rest) = some (d, rest) := by
  rw [date_toList, List.append_assoc, List.cons_append, List.append_assoc, List.cons_append, date?,
    year?_yearText d.year (by simp [StopsNumber]; decide)]
  simp [field?_padded d.month_lt, field?_padded d.day_lt]

/-- **Dates read back.** -/
theorem readDate?_text (d : Date) : readDate? d.text = some d := by
  have h := date?_text d []
  rw [List.append_nil] at h
  rw [readDate?, h]
  rfl

/-! ## Times of day -/

/-- What follows a time is not taken for more of its fraction. -/
def StopsTime (rest : List Char) : Prop := StopsNumber rest ∧ rest.head? ≠ some '.'

theorem fraction?_padded (hwidth : 0 < width) (hle : width ≤ 9) (hn : n < 10 ^ width)
    (hrest : StopsNumber rest) :
    fraction? ('.' :: ((padded width n).toList ++ rest)) = some (n * 10 ^ (9 - width), rest) := by
  have hlength := Text.length_padded hwidth hn
  have hread := number?_append (padded_ne_nil width n) (fun c => isDigit_of_mem_padded)
    (Nat.le_trans (Nat.le_of_eq hlength) hle) fun _ => hrest
  have hstop : rest.dropWhile isDigit = rest := by
    cases rest with
    | nil => rfl
    | cons c rest => exact List.dropWhile_cons_of_neg (by simp [hrest c rfl])
  have hused : ((padded width n).toList ++ rest).length - rest.length = width := by
    rw [List.length_append, hlength, Nat.add_sub_cancel]
  rw [ofDigits_padded] at hread
  simp only [fraction?, hread, Option.map_some, hstop, hused]
  rfl

theorem fraction?_fractionText {nano : Nat} (hnano : nano < 10 ^ 9) (hrest : StopsTime rest) :
    fraction? ((Time.fractionText nano).toList ++ rest) = some (nano, rest) := by
  have hdot (text : String) : ("." ++ text).toList ++ rest = '.' :: (text.toList ++ rest) := by
    simp
  unfold Time.fractionText
  split
  · rename_i hzero
    have hnone : fraction? rest = some (0, rest) := by
      unfold fraction?
      split
      · rename_i htext
        exact absurd rfl hrest.2
      · rfl
    rw [hzero]
    exact hnone
  split
  · rw [hdot, fraction?_padded (by decide) (by decide) (by omega) hrest.1]
    simp only [Option.some.injEq, Prod.mk.injEq, and_true]
    omega
  split
  · rw [hdot, fraction?_padded (by decide) (by decide) (by omega) hrest.1]
    simp only [Option.some.injEq, Prod.mk.injEq, and_true]
    omega
  · rw [hdot, fraction?_padded (by decide) (by decide) hnano hrest.1]
    simp

theorem time_toList (t : Time) : t.text.toList = (padded 2 t.hour).toList ++
    ':' :: ((padded 2 t.minute).toList ++ ':' :: ((padded 2 t.second).toList ++
      (Time.fractionText t.nano).toList)) := by
  simp [Time.text]

theorem time?_text (t : Time) (hrest : StopsTime rest) :
    time? (t.text.toList ++ rest) = some (t, rest) := by
  obtain ⟨hhour, hminute, hsecond, hnano⟩ := t.isTime
  rw [time_toList]
  simp only [List.append_assoc, List.cons_append]
  rw [time?, field?_padded (by omega)]
  simp [field?_padded (show t.minute < 100 by omega), field?_padded (show t.second < 100 by omega),
    fraction?_fractionText hnano hrest, Time.ofHms?_self]

theorem stopsTime_nil : StopsTime [] := ⟨nofun, nofun⟩

/-- **Times read back.** -/
theorem readTime?_text (t : Time) : readTime? t.text = some t := by
  have h := time?_text t stopsTime_nil
  rw [List.append_nil] at h
  rw [readTime?, h]
  rfl

/-! ## Moments -/

theorem dateTime_toList (t : DateTime) :
    t.text.toList = t.date.text.toList ++ 'T' :: t.time.text.toList := by
  simp [DateTime.text]

/-- Date and time are read, and nothing may be left. -/
theorem readLocal?_of_toList {raw : String} {t : DateTime}
    (htext : raw.toList = t.text.toList ++ rest) (hrest : StopsTime rest) :
    readLocal? raw = whole? (some (t, rest)) := by
  rw [dateTime_toList, List.append_assoc, List.cons_append] at htext
  rw [readLocal?, htext, date?_text]
  simp only [Option.bind_eq_bind, Option.bind_some]
  rw [time?_text t.time hrest]
  cases rest <;> rfl

theorem readLocal?_text (t : DateTime) : readLocal? t.text = some t :=
  readLocal?_of_toList (List.append_nil _).symm stopsTime_nil

/-- A year outside four digits has a sign, and no moment with an offset starts with one. -/
theorem readRfc3339?_of_sign {raw : String} {t : DateTime} (ht : ¬ t.date.InFourDigits)
    (htext : raw.toList = t.text.toList ++ rest) : readRfc3339? raw = none := by
  have hsign : ∃ c ∈ ['+', '-'], ∃ cs, raw.toList = c :: cs := by
    rw [htext, dateTime_toList, date_toList]
    unfold Date.yearText
    split
    · exact ⟨'-', by simp, _, by simp; rfl⟩
    split
    · exact absurd ⟨by omega, by omega⟩ ht
    · exact ⟨'+', by simp, _, by simp; rfl⟩
  obtain ⟨c, hc, cs, hcs⟩ := hsign
  have hnot : isDigit c = false := by
    simp only [List.mem_cons, List.not_mem_nil, or_false] at hc
    obtain rfl | rfl := hc <;> decide
  have hyear : fixedWidth? 4 raw.toList = none := by
    rw [hcs, fixedWidth?, List.take_succ_cons]
    simp [hnot]
  rw [readRfc3339?, hyear]
  rfl

/-- After a year of four digits the offset decides. -/
theorem readRfc3339?_of_toList {raw : String} {t : DateTime} (ht : t.date.InFourDigits)
    (htext : raw.toList = t.text.toList ++ rest) (hrest : StopsTime rest) :
    readRfc3339? raw = (offset? rest).bind t.subOffset? := by
  obtain ⟨hhour, hminute, hsecond, hnano⟩ := t.time.isTime
  have hyear : (t.date.year.natAbs : Int) = t.date.year := by have := ht.1; omega
  have htwo {n : Nat} (hn : n < 100) (rest : List Char) :
      fixedWidth? 2 ((padded 2 n).toList ++ rest) = some (n, rest) :=
    fixedWidth?_padded (by decide) hn rest
  rw [dateTime_toList, Date.text_toList ht, time_toList] at htext
  simp only [List.append_assoc, List.cons_append] at htext
  rw [readRfc3339?, htext, fixedWidth?_padded (by decide) (by have := ht.2; omega)]
  dsimp only [bind, Option.bind]
  simp only [literal?_cons, htwo t.date.month_lt, htwo t.date.day_lt]
  rw [if_pos (by decide)]
  simp only [literal?_cons, htwo (show t.time.hour < 100 by omega),
    htwo (show t.time.minute < 100 by omega), htwo (show t.time.second < 100 by omega),
    fraction?_fractionText hnano hrest, hyear, Date.ofYmd?_self, Time.ofHms?_self]

/-- **Local moments read back.** -/
theorem readMoment?_text (t : DateTime) : readMoment? t.text = some t := by
  have hnone : readRfc3339? t.text = none := by
    by_cases ht : t.date.InFourDigits
    · rw [readRfc3339?_of_toList ht (List.append_nil _).symm stopsTime_nil]
      rfl
    · exact readRfc3339?_of_sign ht (List.append_nil _).symm
  rw [readMoment?, hnone, readLocal?_text]
  rfl

/-- **Moments of universal time read back** just if their year has four digits. -/
theorem readMoment?_utcText (t : DateTime) :
    readMoment? t.utcText = if t.date.InFourDigits then some t else none := by
  have htext : t.utcText.toList = t.text.toList ++ ['Z'] := by simp [DateTime.utcText]
  have hstops : StopsTime ['Z'] := by simp [StopsTime, StopsNumber]; decide
  have hlocal : readLocal? t.utcText = none := readLocal?_of_toList htext hstops
  rw [readMoment?, hlocal]
  split
  · rename_i ht
    rw [readRfc3339?_of_toList ht htext hstops]
    exact congrArg (· <|> none) (DateTime.subOffset?_zero t)
  · rename_i ht
    rw [readRfc3339?_of_sign ht htext]
    rfl

end Calendar

/-! ## Truncated dates and times -/

open Calendar

theorem shortYearText_toList {year : Int} (h : 0 ≤ year) :
    (shortYearText year).toList = (padded 4 year.natAbs).toList := by
  rw [shortYearText, if_neg (Int.not_lt.2 h)]

theorem componentText_toList (mark : String) (c : Char) (hmark : mark.toList = [c]) (n : Nat) :
    (componentText mark (some n)).toList = c :: (padded 2 n).toList := by
  rw [componentText, String.toList_append, hmark, List.singleton_append]

/-- A component is read of its text. Nothing follows one that is missing. -/
theorem readComponent?_componentText (mark : String) (c : Char) {marks : List Char}
    (hmark : mark.toList = [c]) (hc : c ∈ marks) {component : Option Nat}
    (hlt : ∀ n ∈ component, n < 100) (rest : List Char) (hrest : component = none → rest = []) :
    readComponent? marks ((componentText mark component).toList ++ rest) =
      some (component, rest) := by
  cases component with
  | none =>
    rw [hrest rfl]
    rfl
  | some n =>
    rw [componentText_toList mark c hmark, List.cons_append, readComponent?, if_pos hc,
      fixedWidth?_padded (by decide) (hlt n rfl)]
    rfl

namespace PartialDate

variable {p : PartialDate} {first : Date}

theorem month_lt (h : p.resolve .first = some first) : ∀ month ∈ p.month, month < 100 := by
  rintro month hmonth
  rw [resolve_eq_first, Date.ofYmd?_eq_some_iff, hmonth, Option.getD_some] at h
  exact h.2.1 ▸ first.month_lt

theorem text_toList (hyear : 0 ≤ p.year) : p.text.toList =
    (padded 4 p.year.natAbs).toList ++ (componentText "-" p.month).toList := by
  rw [text, String.toList_append, shortYearText_toList hyear]

/-- **Truncated dates read back.** -/
theorem read?_text (hyear : 0 ≤ p.year ∧ p.year ≤ 9999) (h : p.resolve .first = some first) :
    read? p.text = some p := by
  have hsame : (p.year.natAbs : Int) = p.year := by omega
  have hwhole : ofComponents? p.year p.month = some p := if_pos (by rw [h]; rfl)
  have hread := readComponent?_componentText "-" '-' rfl (List.mem_singleton_self '-')
    (month_lt h) [] fun _ => rfl
  rw [List.append_nil] at hread
  rw [read?, text_toList hyear.1, fixedWidth?_padded (by decide) (by omega)]
  dsimp only [bind, Option.bind]
  rw [hread, hsame]
  exact hwhole

/-- A truncated date is no date, for it has no day. -/
theorem readDate?_text (hyear : 0 ≤ p.year ∧ p.year ≤ 9999) (h : p.resolve .first = some first) :
    readDate? p.text = none := by
  rw [readDate?, text_toList hyear.1, date?, year?_padded (by omega)]
  cases hp : p.month with
  | none => rfl
  | some month =>
    have hread := field?_padded (month_lt h month hp) []
    rw [List.append_nil] at hread
    dsimp only [bind, Option.bind]
    simp only [componentText_toList "-" '-' rfl, literal?_cons, hread]
    rfl

end PartialDate

namespace PartialTime

variable {p : PartialTime} {first : Time}

theorem hour_lt (h : p.resolve .first = some first) :
    p.hour < 100 ∧ ∀ minute ∈ p.minute, minute < 100 := by
  obtain ⟨hhour, hminute, -, -⟩ := first.isTime
  change Time.ofHms? p.hour (p.minute.getD 0) 0 0 = some first at h
  obtain ⟨hsame, hsame', -, -⟩ := Time.ofHms?_eq_some_iff.1 h
  refine ⟨by omega, fun minute hp => ?_⟩
  rw [hp, Option.getD_some] at hsame'
  omega

/-- **Truncated times read back.** -/
theorem read?_text (h : p.resolve .first = some first) : read? p.text = some p := by
  obtain ⟨hhour, hminute⟩ := hour_lt h
  have hwhole : ofComponents? p.hour p.minute = some p := if_pos (by rw [h]; rfl)
  have hread := readComponent?_componentText ":" ':' rfl (List.mem_singleton_self ':')
    hminute [] fun _ => rfl
  rw [List.append_nil] at hread
  rw [read?, text, String.toList_append, fixedWidth?_padded (by decide) hhour]
  dsimp only [bind, Option.bind]
  rw [hread]
  exact hwhole

/-- A truncated time is no time, for it has no seconds. -/
theorem readTime?_text (h : p.resolve .first = some first) : readTime? p.text = none := by
  obtain ⟨hhour, hminute⟩ := hour_lt h
  rw [readTime?, text, String.toList_append, time?, field?_padded hhour]
  cases hp : p.minute with
  | none => rfl
  | some minute =>
    have hread := field?_padded (hminute minute hp) []
    rw [List.append_nil] at hread
    dsimp only [bind, Option.bind]
    simp only [componentText_toList ":" ':' rfl, literal?_cons, hread]
    rfl

end PartialTime

namespace PartialDateTime

variable {p : PartialDateTime} {first : DateTime}

theorem ordered_iff : p.ordered ↔ (p.month = none → p.day = none) ∧
    (p.day = none → p.hour = none) ∧ (p.hour = none → p.minute = none) := by
  obtain ⟨year, month, day, hour, minute⟩ := p
  cases month <;> cases day <;> cases hour <;> cases minute <;> simp [ordered]

/-- All components have two digits at most. -/
theorem components_lt (hordered : p.ordered) (h : p.resolve .first = some first) :
    (∀ n ∈ p.month, n < 100) ∧ (∀ n ∈ p.day, n < 100) ∧ (∀ n ∈ p.hour, n < 100) ∧
      (∀ n ∈ p.minute, n < 100) := by
  obtain ⟨hday, htime⟩ := resolve_eq_some.1 h
  unfold dayAt? at hday
  unfold timeAt? at htime
  obtain ⟨hmonth, hday⟩ : (∀ n ∈ p.month, n < 100) ∧ (∀ n ∈ p.day, n < 100) := by
    cases hp : p.day with
    | none =>
      rw [hp] at hday
      exact ⟨PartialDate.month_lt hday, nofun⟩
    | some day =>
      rw [hp] at hday
      obtain ⟨month, hmonth, hdate⟩ := Option.bind_eq_some_iff.1 hday
      obtain ⟨-, hsame, hsame'⟩ := Date.ofYmd?_eq_some_iff.1 hdate
      rw [hmonth]
      simp only [Option.mem_some_iff, forall_eq']
      exact ⟨hsame ▸ first.date.month_lt, hsame' ▸ first.date.day_lt⟩
  obtain ⟨hhour, hminute⟩ : (∀ n ∈ p.hour, n < 100) ∧ (∀ n ∈ p.minute, n < 100) := by
    cases hp : p.hour with
    | none =>
      rw [(ordered_iff.1 hordered).2.2 hp]
      exact ⟨nofun, nofun⟩
    | some hour =>
      rw [hp] at htime
      obtain ⟨hhour, hminute⟩ := PartialTime.hour_lt htime
      simp only [Option.mem_some_iff, forall_eq']
      exact ⟨hhour, hminute⟩
  exact ⟨hmonth, hday, hhour, hminute⟩

theorem text_toList (hyear : 0 ≤ p.year) : p.text.toList =
    (padded 4 p.year.natAbs).toList ++ ((componentText "-" p.month).toList ++
      ((componentText "-" p.day).toList ++ ((componentText "T" p.hour).toList ++
        (componentText ":" p.minute).toList))) := by
  simp only [text, String.toList_append, shortYearText_toList hyear, List.append_assoc]

theorem read?_ordered {text : String} (h : read? text = some p) : p.ordered := by
  obtain ⟨⟨year, rest⟩, -, h⟩ := Option.bind_eq_some_iff.1 h
  obtain ⟨⟨month, rest⟩, -, h⟩ := Option.bind_eq_some_iff.1 h
  obtain ⟨⟨day, rest⟩, -, h⟩ := Option.bind_eq_some_iff.1 h
  obtain ⟨⟨hour, rest⟩, -, h⟩ := Option.bind_eq_some_iff.1 h
  obtain ⟨minute, -, h⟩ := Option.bind_eq_some_iff.1 h
  unfold ofComponents? at h
  dsimp only at h
  split at h
  · rename_i hordered
    cases h
    rw [Bool.and_eq_true] at hordered
    exact hordered.1
  · cases h

/-- **Truncated moments read back.** -/
theorem read?_text (hyear : 0 ≤ p.year ∧ p.year ≤ 9999) (hordered : p.ordered)
    (h : p.resolve .first = some first) : read? p.text = some p := by
  have hsame : (p.year.natAbs : Int) = p.year := by omega
  have hwhole : ofComponents? p.year p.month p.day p.hour p.minute = some p :=
    if_pos (by rw [h]; simpa using hordered)
  obtain ⟨hmonth, hday, hhour, hminute⟩ := components_lt hordered h
  obtain ⟨hafterMonth, hafterDay, hafterHour⟩ := ordered_iff.1 hordered
  have hreadMinute := readComponent?_componentText ":" ':' rfl (List.mem_singleton_self ':') hminute
    [] fun _ => rfl
  rw [List.append_nil] at hreadMinute
  have hreadHour := readComponent?_componentText "T" 'T' rfl (List.mem_cons_self : 'T' ∈ ['T', ' '])
    hhour (componentText ":" p.minute).toList fun hnone => by rw [hafterHour hnone]; rfl
  have hreadDay := readComponent?_componentText "-" '-' rfl (List.mem_singleton_self '-') hday
    ((componentText "T" p.hour).toList ++ (componentText ":" p.minute).toList)
    fun hnone => by rw [hafterDay hnone, hafterHour (hafterDay hnone)]; rfl
  have hreadMonth := readComponent?_componentText "-" '-' rfl (List.mem_singleton_self '-') hmonth
    ((componentText "-" p.day).toList ++ ((componentText "T" p.hour).toList ++
      (componentText ":" p.minute).toList))
    fun hnone => by
      rw [hafterMonth hnone, hafterDay (hafterMonth hnone),
        hafterHour (hafterDay (hafterMonth hnone))]
      rfl
  rw [read?, text_toList hyear.1, fixedWidth?_padded (by decide) (by omega)]
  dsimp only [bind, Option.bind]
  simp only [hreadMonth, hreadDay, hreadHour, hreadMinute, hsame]
  exact hwhole

/-- A truncated moment is no moment, for it has no seconds. -/
theorem readMoment?_text (hyear : 0 ≤ p.year ∧ p.year ≤ 9999) (hordered : p.ordered)
    (h : p.resolve .first = some first) : readMoment? p.text = none := by
  obtain ⟨hmonth, hday, hhour, hminute⟩ := components_lt hordered h
  obtain ⟨hafterMonth, hafterDay, hafterHour⟩ := ordered_iff.1 hordered
  have hlt : p.year.natAbs < 10 ^ 4 := by omega
  have hfixed {n : Nat} (hn : n < 100) (rest : List Char) :
      fixedWidth? 2 ((padded 2 n).toList ++ rest) = some (n, rest) :=
    fixedWidth?_padded (by decide) hn rest
  have hfixedEnd {n : Nat} (hn : n < 100) : fixedWidth? 2 (padded 2 n).toList = some (n, []) := by
    simpa using hfixed hn []
  have hfieldEnd {n : Nat} (hn : n < 100) : field? 2 (padded 2 n).toList = some (n, []) := by
    simpa using field?_padded hn []
  unfold readMoment? readRfc3339? readLocal? date? time?
  rw [text_toList hyear.1, fixedWidth?_padded (by decide) hlt, year?_padded hlt]
  dsimp only [bind, Option.bind]
  -- Both readers give up where the text ends.
  cases hp : p.month with
  | none =>
    rw [hafterMonth hp, hafterDay (hafterMonth hp), hafterHour (hafterDay (hafterMonth hp))]
    rfl
  | some month =>
    have hmonth := hmonth month hp
    simp only [componentText_toList "-" '-' rfl, List.cons_append, literal?_cons, hfixed hmonth,
      field?_padded hmonth]
    cases hp : p.day with
    | none =>
      rw [hafterDay hp, hafterHour (hafterDay hp)]
      rfl
    | some day =>
      have hday := hday day hp
      simp only [componentText_toList "-" '-' rfl, List.cons_append, literal?_cons, hfixed hday,
        field?_padded hday]
      cases hp : p.hour with
      | none =>
        rw [hafterHour hp]
        cases Date.ofYmd? (p.year.natAbs : Int) month day <;> rfl
      | some hour =>
        have hhour := hhour hour hp
        simp only [componentText_toList "T" 'T' rfl, List.cons_append]
        cases hp : p.minute with
        | none =>
          cases Date.ofYmd? (p.year.natAbs : Int) month day
          all_goals simp [componentText, hfixedEnd hhour, hfieldEnd hhour, literal?, whole?]
        | some minute =>
          have hminute := hminute minute hp
          simp only [componentText_toList ":" ':' rfl]
          cases Date.ofYmd? (p.year.natAbs : Int) month day
          all_goals simp [hfixed hhour, field?_padded hhour, hfixedEnd hminute, hfieldEnd hminute,
            literal?, whole?]

end PartialDateTime

end SearchQuery
