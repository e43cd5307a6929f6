import Mathlib.Tactic.Common
import SearchQuery.Proofs.Schema.Bounds

/-!
# Values of temporal types

What is read as a date or time, and what the bounds of a span are.

* `read_cases`: the three ways in which a literal is read.
* `admits_of_read`: what is read is a value of the type or a span of such values.
* `Admits.resolved`: the bounds of a span are of its type just if the type is kept.
-/

namespace SearchQuery

namespace Value

/-- The type of a date or time that is no span. -/
def temporalKind? : Value → Option TemporalKind
  | date _ => some .date
  | time _ => some .time
  | localDateTime _ => some .localDateTime
  | utcDateTime _ => some .utcDateTime
  | _ => none

end Value

namespace TemporalKind

variable {kind : TemporalKind} {raw : String} {now : DateTime} {v : Value}

/-! ## Reading -/

/-- A literal is a relative moment, a full date or time, or a truncated one. -/
theorem read_cases (h : kind.read raw now = .ok v) :
    (∃ t, v = kind.ofMoment t) ∨ kind.readFull? raw = some v ∨ kind.readPartial? raw = some v := by
  unfold read at h
  split at h
  · split at h
    · cases h
      exact .inl ⟨_, rfl⟩
    · cases h
  · cases hfull : kind.readFull? raw with
    | some w =>
      rw [hfull] at h
      cases h
      exact .inr (.inl rfl)
    | none =>
      cases hpartial : kind.readPartial? raw with
      | some w =>
        rw [hfull, hpartial] at h
        cases h
        exact .inr (.inr rfl)
      | none =>
        rw [hfull, hpartial] at h
        cases h

theorem ofMoment_not_partial (kind : TemporalKind) (t : DateTime) :
    (kind.ofMoment t).isPartial = false := by
  cases kind <;> rfl

theorem readFull?_not_partial (h : kind.readFull? raw = some v) : v.isPartial = false := by
  cases kind
  all_goals
    obtain ⟨t, -, rfl⟩ := Option.map_eq_some_iff.1 h
    rfl

/-- Only what is read as a truncated date or time stands for a span. -/
theorem read_partial (h : kind.read raw now = .ok v) (hpartial : v.isPartial) :
    kind.readPartial? raw = some v := by
  obtain ⟨t, rfl⟩ | hfull | hread := read_cases h
  · rw [ofMoment_not_partial] at hpartial
    cases hpartial
  · rw [readFull?_not_partial hfull] at hpartial
    cases hpartial
  · exact hread

/-! ## Types -/

/-- The value is of the type or is a span of such values. -/
def Admits (kind : TemporalKind) : Value → Prop
  | .date _ | .partialDate _ => kind = date
  | .time _ | .partialTime _ => kind = time
  | .localDateTime _ => kind = localDateTime
  | .utcDateTime _ => kind = utcDateTime
  | .partialDateTime _ => kind = localDateTime ∨ kind = utcDateTime
  | _ => False

theorem Admits.temporalKind?_eq (h : kind.Admits v) (hpartial : v.isPartial = false) :
    v.temporalKind? = some kind := by
  cases v with
  | date | time | localDateTime | utcDateTime =>
    cases h
    rfl
  | partialDate | partialTime | partialDateTime => cases hpartial
  | _ => cases h

/-- What is read is of the type that it is read as. -/
theorem admits_of_read (h : kind.read raw now = .ok v) : kind.Admits v := by
  obtain ⟨t, rfl⟩ | hfull | hpartial := read_cases h
  · cases kind <;> rfl
  · cases kind
    all_goals
      obtain ⟨_, -, rfl⟩ := Option.map_eq_some_iff.1 hfull
      rfl
  · cases kind
    all_goals
      obtain ⟨_, -, rfl⟩ := Option.map_eq_some_iff.1 hpartial
      simp [Admits]

/-- The bounds of a span of the type are of the type themselves where the field is taken to be of
type `found`: moments are of universal time just if that is what was found. -/
def KeptBy (kind : TemporalKind) (found : Option TemporalKind) : Prop :=
  match kind with
  | date | time => True
  | localDateTime => found ≠ some utcDateTime
  | utcDateTime => found = some utcDateTime

/-- A value of the type that is no span has the type, whatever is found. -/
theorem Admits.concrete (h : kind.Admits v) (hpartial : ¬ v.isPartial)
    (found : Option TemporalKind) :
    v.temporalKind? = some kind ↔ (v.isPartial → kind.KeptBy found) := by
  have hkind : v.temporalKind? = some kind := h.temporalKind?_eq (by simpa using hpartial)
  exact iff_of_true hkind fun hspan => absurd hspan hpartial

/-- A bound of a value of the type is of the type, unless the value is a span and the type is not
kept. -/
theorem Admits.resolved {found : Option TemporalKind} {bound : Bound} {w : Value}
    (h : kind.Admits v) (hw : v.resolveFor? found bound = some w) :
    w.temporalKind? = some kind ↔ (v.isPartial → kind.KeptBy found) := by
  obtain ⟨hpartial, rfl⟩ | ⟨p, d, rfl, rfl⟩ | ⟨p, t, rfl, rfl⟩ | ⟨p, t, rfl, rfl⟩ :=
    Value.resolveFor?_cases hw
  · exact h.concrete (by simp [hpartial]) found
  · cases h
    simp [Value.temporalKind?, KeptBy]
  · cases h
    simp [Value.temporalKind?, KeptBy]
  · obtain rfl | rfl := h
    · split <;> simp [Value.temporalKind?, Value.isPartial, KeptBy, *]
    · split <;> simp [Value.temporalKind?, Value.isPartial, KeptBy, *]

end TemporalKind

end SearchQuery
