import Mathlib.Tactic.Common
import SearchQuery.Proofs.Calendar.Text
import SearchQuery.Proofs.Identifier.Text
import SearchQuery.Proofs.Schema.Temporal
import SearchQuery.Schema.Cast

/-!
# Casts that are stable

What a literal is cast to is written, and the text is cast again. The same value comes back, but for
moments of universal time: their text ends in an offset, and no moment with an offset is read whose
year has more or less than four digits.

* `read_text_iff`: dates, times and the truncated ones, whichever form they were read from.
* `cast_text_iff`: all types but those of numbers with a fraction.
-/

namespace SearchQuery

/-! ## Texts of dates and times -/

/-- The text does not start like a relative moment. -/
def NotRelative (text : String) : Prop := text.toList.head? ≠ some '@'

theorem head?_padded (width n : Nat) (rest : List Char) :
    ((Number.padded width n).toList ++ rest).head? ≠ some '@' := by
  intro h
  rw [List.head?_append_of_ne_nil _ (Number.padded_ne_nil width n)] at h
  cases Number.isDigit_of_mem_padded (List.mem_of_head? h)

theorem Date.notRelative_text (d : Date) (rest : List Char) :
    (d.text.toList ++ rest).head? ≠ some '@' := by
  rw [Calendar.date_toList, List.append_assoc]
  unfold Date.yearText
  split
  · simp
  split
  · exact head?_padded 4 _ _
  · simp

namespace TemporalKind

variable {kind : TemporalKind} {raw : String} {now now' : DateTime} {v : Value}

theorem notRelative_ofMoment (kind : TemporalKind) (t : DateTime) :
    NotRelative (kind.ofMoment t).text := by
  cases kind with
  | date =>
    have h := t.date.notRelative_text []
    rwa [List.append_nil] at h
  | time =>
    change t.time.text.toList.head? ≠ _
    rw [Calendar.time_toList]
    exact head?_padded 2 _ _
  | localDateTime =>
    change t.text.toList.head? ≠ _
    rw [Calendar.dateTime_toList]
    exact t.date.notRelative_text _
  | utcDateTime =>
    change t.utcText.toList.head? ≠ _
    rw [DateTime.utcText, String.toList_append, Calendar.dateTime_toList, List.append_assoc]
    exact t.date.notRelative_text _

theorem read_of_notRelative (h : NotRelative raw) : kind.read raw now =
    ((kind.readFull? raw) <|> (kind.readPartial? raw)).elim (.error ⟨raw, kind, none⟩) .ok :=
  if_neg h

/-- A full date or time is that of a moment. -/
theorem exists_ofMoment (h : kind.readFull? raw = some v) : ∃ t, v = kind.ofMoment t := by
  cases kind with
  | date =>
    obtain ⟨d, -, rfl⟩ := Option.map_eq_some_iff.1 h
    exact ⟨⟨d, .midnight⟩, rfl⟩
  | time =>
    obtain ⟨t, -, rfl⟩ := Option.map_eq_some_iff.1 h
    exact ⟨⟨⟨0, 1, 1, by decide⟩, t⟩, rfl⟩
  | localDateTime | utcDateTime =>
    obtain ⟨t, -, rfl⟩ := Option.map_eq_some_iff.1 h
    exact ⟨t, rfl⟩

/-- The text of a moment is read as a full date or time, unless it has an offset after a year that
is not of four digits. -/
theorem readFull?_text (kind : TemporalKind) (t : DateTime) :
    kind.readFull? (kind.ofMoment t).text =
      if kind = utcDateTime → t.date.InFourDigits then some (kind.ofMoment t) else none := by
  cases kind with
  | date => simp [readFull?, ofMoment, Value.text, Calendar.readDate?_text]
  | time => simp [readFull?, ofMoment, Value.text, Calendar.readTime?_text]
  | localDateTime => simp [readFull?, ofMoment, Value.text, Calendar.readMoment?_text]
  | utcDateTime =>
    by_cases ht : t.date.InFourDigits
    all_goals simp [readFull?, ofMoment, Value.text, Calendar.readMoment?_utcText, ht]

theorem readPartial?_isPartial (h : kind.readPartial? raw = some v) : v.isPartial := by
  cases kind
  all_goals
    obtain ⟨p, -, rfl⟩ := Option.map_eq_some_iff.1 h
    rfl

theorem read_ofMoment_iff (kind : TemporalKind) (t : DateTime) :
    kind.read (kind.ofMoment t).text now = .ok (kind.ofMoment t) ↔
      (kind = utcDateTime → t.date.InFourDigits) := by
  constructor
  · intro h
    -- What else is read is a truncated moment, which is another value.
    by_contra ht
    rw [read_of_notRelative (notRelative_ofMoment kind t), readFull?_text, if_neg ht] at h
    cases hpartial : kind.readPartial? (kind.ofMoment t).text with
    | none =>
      rw [hpartial] at h
      cases h
    | some w =>
      have hspan := readPartial?_isPartial hpartial
      rw [hpartial] at h
      injection h with h
      change w = _ at h
      rw [h, ofMoment_not_partial] at hspan
      cases hspan
  · intro ht
    rw [read_of_notRelative (notRelative_ofMoment kind t), readFull?_text, if_pos ht]
    rfl

/-- The text of a truncated date or time is read as such. -/
theorem read_text_of_partial (h : kind.readPartial? raw = some v) :
    kind.read v.text now = .ok v := by
  have hread {v : Value} (hmark : NotRelative v.text) (hfull : kind.readFull? v.text = none)
      (hpartial : kind.readPartial? v.text = some v) : kind.read v.text now = .ok v := by
    rw [read_of_notRelative hmark, hfull, hpartial]
    rfl
  cases kind with
  | date =>
    obtain ⟨p, hp, rfl⟩ := Option.map_eq_some_iff.1 h
    obtain ⟨hyear, first, hfirst⟩ := PartialDate.read?_ok hp
    refine hread (v := .partialDate p) ?_ ?_ ?_
    · rw [NotRelative, Value.text, PartialDate.text_toList hyear.1]
      exact head?_padded 4 _ _
    · simp only [readFull?, Value.text, PartialDate.readDate?_text hyear hfirst, Option.map_none]
    · simp only [readPartial?, Value.text, PartialDate.read?_text hyear hfirst, Option.map_some]
  | time =>
    obtain ⟨p, hp, rfl⟩ := Option.map_eq_some_iff.1 h
    obtain ⟨first, hfirst⟩ := PartialTime.read?_ok hp
    refine hread (v := .partialTime p) ?_ ?_ ?_
    · rw [NotRelative, Value.text, PartialTime.text, String.toList_append]
      exact head?_padded 2 _ _
    · simp only [readFull?, Value.text, PartialTime.readTime?_text hfirst, Option.map_none]
    · simp only [readPartial?, Value.text, PartialTime.read?_text hfirst, Option.map_some]
  | localDateTime | utcDateTime =>
    obtain ⟨p, hp, rfl⟩ := Option.map_eq_some_iff.1 h
    obtain ⟨hyear, first, hfirst⟩ := PartialDateTime.read?_ok hp
    have hordered := PartialDateTime.read?_ordered hp
    refine hread (v := .partialDateTime p) ?_ ?_ ?_
    · rw [NotRelative, Value.text, PartialDateTime.text_toList hyear.1]
      exact head?_padded 4 _ _
    · simp only [readFull?, Value.text, PartialDateTime.readMoment?_text hyear hordered hfirst,
        Option.map_none]
    · simp only [readPartial?, Value.text, PartialDateTime.read?_text hyear hordered hfirst,
        Option.map_some]

/-- **Dates and times read back.** -/
theorem read_text_iff (h : kind.read raw now = .ok v) :
    kind.read v.text now' = .ok v ↔ ∀ t, v = .utcDateTime t → t.date.InFourDigits := by
  have hmoment (t : DateTime) : kind.read (kind.ofMoment t).text now' = .ok (kind.ofMoment t) ↔
      ∀ t', kind.ofMoment t = .utcDateTime t' → t'.date.InFourDigits := by
    rw [read_ofMoment_iff]
    cases kind <;> simp [ofMoment]
  obtain ⟨t, rfl⟩ | hfull | hpartial := read_cases h
  · exact hmoment t
  · obtain ⟨t, rfl⟩ := exists_ofMoment hfull
    exact hmoment t
  · refine iff_of_true (read_text_of_partial hpartial) ?_
    rintro t rfl
    cases readPartial?_isPartial hpartial

end TemporalKind

/-! ## All types -/

namespace Kind

variable {kind : Kind} {raw : String} {now : DateTime} {v : Value}

theorem cast_temporal_eq_ok {kind : TemporalKind} :
    (temporal kind).cast raw now = .ok v ↔ kind.read raw now = .ok v := by
  rw [cast, Except.mapError_eq_ok]

/-- **Casts that are stable.** The text of a value is cast to the same value at any time, unless the
value is a moment of universal time whose year is not of four digits. -/
theorem cast_text_iff (hfloat : kind ≠ .float) (hdecimal : kind ≠ .decimal)
    (h : kind.cast raw now = .ok v) (now' : DateTime) :
    kind.cast v.text now' = .ok v ↔ ∀ t, v = .utcDateTime t → t.date.InFourDigits := by
  cases kind with
  | float => exact absurd rfl hfloat
  | decimal => exact absurd rfl hdecimal
  | temporal kind =>
    rw [cast_temporal_eq_ok] at h ⊢
    exact TemporalKind.read_text_iff h
  | atom | string =>
    cases h
    exact iff_of_true rfl (by rintro t ⟨⟩)
  | binaryId | uuid =>
    rw [cast] at h
    split at h
    · rename_i u hu
      cases h
      refine iff_of_true ?_ (by rintro t ⟨⟩)
      rw [cast, Value.text, Uuid.read_text]
    · cases h
  | ulid =>
    rw [cast] at h
    split at h
    · rename_i text htext
      cases h
      refine iff_of_true ?_ (by rintro t ⟨⟩)
      rw [cast, Value.text, Ulid.read?_idem htext]
    · cases h
  | boolean =>
    rw [cast] at h
    split at h
    · rename_i b hb
      cases h
      refine iff_of_true ?_ (by rintro t ⟨⟩)
      cases b <;> rfl
    · cases h
  | integer =>
    rw [cast] at h
    split at h
    · rename_i n hn
      cases h
      refine iff_of_true ?_ (by rintro t ⟨⟩)
      rw [cast, Value.text, Number.readInt64_integerText]
    · cases h

/-- A moment with an offset, which is written in universal time. -/
theorem cast_text_iff_offset :
    let now : DateTime := ⟨⟨2024, 3, 15, by decide⟩, .midnight⟩
    let v : Value := .utcDateTime ⟨⟨2023, 12, 31, by decide⟩, ⟨22, 30, 0, 500000000, by decide⟩⟩
    (temporal .utcDateTime).cast "2024-01-01T00:30:00.5+02:00" now = .ok v ∧
      v.text = "2023-12-31T22:30:00.500Z" ∧ (temporal .utcDateTime).cast v.text now = .ok v := by
  intro now v
  have hcast : (temporal .utcDateTime).cast "2024-01-01T00:30:00.5+02:00" now = .ok v := by decide
  refine ⟨hcast, by decide, (cast_text_iff (by decide) (by decide) hcast now).2 ?_⟩
  intro t ht
  rw [← Value.utcDateTime.inj ht]
  decide

/-- The first moment after the year 9999 is read without an offset and written with one. -/
theorem cast_text_five_digits :
    let now : DateTime := ⟨⟨2024, 3, 15, by decide⟩, .midnight⟩
    let t : DateTime := ⟨⟨10000, 1, 1, by decide⟩, .midnight⟩
    (temporal .utcDateTime).cast "+10000-01-01T00:00:00" now = .ok (.utcDateTime t) ∧
      (Value.utcDateTime t).text = "+10000-01-01T00:00:00Z" ∧
      (temporal .utcDateTime).cast "+10000-01-01T00:00:00Z" now =
        .error ⟨["utc_datetime", "partial_datetime"], "no matching format"⟩ := by
  decide

end Kind

end SearchQuery
