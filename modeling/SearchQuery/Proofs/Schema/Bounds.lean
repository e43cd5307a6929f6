import Mathlib.Tactic.Common
import SearchQuery.Proofs.Except
import SearchQuery.Schema.Bounds

/-!
# Bounds of spans

What the bounds of a value are, and what becomes of literals, sides of ranges and comparisons.

* `resolveFor?_cases`: the bounds of a value by its type.
* `resolveSide_cases`, `resolveBounds_value`: a literal as a side of a range and on its own.
* `resolveBounds_compare`: an ordering of a literal takes the bound that it compares with, and any
  other comparison resolves its operand.
-/

namespace SearchQuery

namespace Value

variable {v w : Value} {found : Option TemporalKind} {bound : Bound}

theorem resolve?_of_not_partial (h : v.isPartial = false) (bound : Bound) :
    v.resolve? bound = some v := by
  cases v <;> first | rfl | cases h

/-- The bounds of a span are no spans. -/
theorem isPartial_of_resolve? (h : v.resolve? bound = some w) : w.isPartial = false := by
  cases v with
  | partialDate p | partialTime p | partialDateTime p =>
    obtain ⟨_, -, rfl⟩ := Option.map_eq_some_iff.1 h
    rfl
  | _ => cases h; rfl

theorem resolveFor?_of_not_partial (h : v.isPartial = false) (found : Option TemporalKind)
    (bound : Bound) : v.resolveFor? found bound = some v := by
  cases v with
  | partialDate | partialTime | partialDateTime => cases h
  | _ => simp [resolveFor?, resolve?, isPartial]

/-- A value that is no span is its own bound. The bounds of a span are dates, times, or moments of
which the field tells whether they are of universal time. -/
theorem resolveFor?_cases (h : v.resolveFor? found bound = some w) :
    (v.isPartial = false ∧ w = v) ∨ (∃ p d, v = partialDate p ∧ w = date d) ∨
      (∃ p t, v = partialTime p ∧ w = time t) ∨
      ∃ p t, v = partialDateTime p ∧
        w = if found = some .utcDateTime then utcDateTime t else localDateTime t := by
  unfold resolveFor? at h
  split at h
  · rename_i t hpartial hresolve
    cases v with
    | partialDateTime p =>
      cases h
      exact .inr (.inr (.inr ⟨p, t, rfl, (if_pos rfl).symm⟩))
    | partialDate p | partialTime p =>
      obtain ⟨_, -, ⟨⟩⟩ := Option.map_eq_some_iff.1 hresolve
    | _ => cases hpartial
  · rename_i hother
    cases v with
    | partialDate p =>
      obtain ⟨d, -, rfl⟩ := Option.map_eq_some_iff.1 h
      exact .inr (.inl ⟨p, d, rfl, rfl⟩)
    | partialTime p =>
      obtain ⟨t, -, rfl⟩ := Option.map_eq_some_iff.1 h
      exact .inr (.inr (.inl ⟨p, t, rfl, rfl⟩))
    | partialDateTime p =>
      obtain ⟨t, ht, rfl⟩ := Option.map_eq_some_iff.1 h
      refine .inr (.inr (.inr ⟨p, t, rfl, ?_⟩))
      rw [if_neg]
      rintro rfl
      exact hother t rfl rfl h
    | _ =>
      cases h
      exact .inl ⟨rfl, rfl⟩

theorem isPartial_of_resolveFor? (h : v.resolveFor? found bound = some w) :
    w.isPartial = false := by
  obtain ⟨hpartial, rfl⟩ | ⟨p, d, rfl, rfl⟩ | ⟨p, t, rfl, rfl⟩ | ⟨p, t, rfl, rfl⟩ :=
    resolveFor?_cases h
  · exact hpartial
  · rfl
  · rfl
  · split <;> rfl

end Value

namespace Item

variable {field : String} {found : Option TemporalKind} {bound : Bound} {v w : Value}

theorem resolveSpan_eq_ok :
    resolveSpan field found v bound = .ok w ↔ v.resolveFor? found bound = some w := by
  rw [resolveSpan]
  cases v.resolveFor? found bound <;> simp [Option.elim]

/-- What is done to a side of a range: a literal takes its bound, and anything else stays. -/
theorem resolveSide_cases {side side' : Item} (h : resolveSide field found bound side = .ok side') :
    (∃ pos v w, side = .value pos v ∧ v.resolveFor? found bound = some w ∧ side' = .value pos w) ∨
      (∀ pos v, side ≠ .value pos v) ∧ side' = side := by
  unfold resolveSide at h
  split at h
  · rename_i pos v
    split at h
    · obtain ⟨w, hw, ⟨⟩⟩ := Except.bind_eq_ok.1 h
      exact .inl ⟨pos, v, w, rfl, resolveSpan_eq_ok.1 hw, rfl⟩
    · rename_i hpartial
      cases h
      exact .inl ⟨pos, v, v, rfl,
        Value.resolveFor?_of_not_partial (by simpa using hpartial) found bound, rfl⟩
  · rename_i hother
    cases h
    exact .inr ⟨hother, rfl⟩

/-- What is done to a literal on its own: a span becomes the range between its bounds. -/
theorem resolveBounds_value {pos : Position} {item : Item}
    (h : resolveBounds field found (.value pos v) = .ok item) :
    (v.isPartial = false ∧ item = .value pos v) ∨
      v.isPartial ∧ ∃ first last, v.resolveFor? found .first = some first ∧
        v.resolveFor? found .last = some last ∧
        item = .range pos (.value pos first) (.value pos last) := by
  rw [resolveBounds] at h
  split at h
  · rename_i hpartial
    obtain ⟨first, hfirst, h⟩ := Except.bind_eq_ok.1 h
    obtain ⟨last, hlast, ⟨⟩⟩ := Except.bind_eq_ok.1 h
    exact .inr ⟨hpartial, first, last, resolveSpan_eq_ok.1 hfirst, resolveSpan_eq_ok.1 hlast, rfl⟩
  · rename_i hpartial
    cases h
    exact .inl ⟨by simpa using hpartial, rfl⟩

/-- What is done to an ordering of a literal, and to any other comparison. -/
theorem resolveBounds_compare {pos : Position} {op : Operator} {operand item : Item}
    (h : resolveBounds field found (.compare pos op operand) = .ok item) :
    (∃ bound place v w, op.bound? = some bound ∧ operand = .value place v ∧
      v.resolveFor? found bound = some w ∧ item = .compare pos op (.value place w)) ∨
    ∃ operand', (∀ bound place v, op.bound? = some bound → operand ≠ .value place v) ∧
      resolveBounds field found operand = .ok operand' ∧ item = .compare pos op operand' := by
  unfold resolveBounds at h
  split at h
  · rename_i bound place v hbound
    split at h
    · obtain ⟨w, hw, ⟨⟩⟩ := Except.bind_eq_ok.1 h
      exact .inl ⟨bound, place, v, w, hbound, rfl, resolveSpan_eq_ok.1 hw, rfl⟩
    · rename_i hpartial
      cases h
      exact .inl ⟨bound, place, v, v, hbound, rfl,
        Value.resolveFor?_of_not_partial (by simpa using hpartial) found bound, rfl⟩
  · rename_i hother
    obtain ⟨operand', hoperand, ⟨⟩⟩ := Except.bind_eq_ok.1 h
    exact .inr ⟨operand', hother, hoperand, rfl⟩

end Item

end SearchQuery
