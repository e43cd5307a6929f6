import Mathlib.Data.List.Basic
import Mathlib.Tactic.Common
import SearchQuery.Proofs.Document.Reading
import SearchQuery.Proofs.Except
import SearchQuery.Proofs.Schema.Bounds

/-!
# Spans and their bounds match alike

A query with spans may be matched as it stands, where each test takes the bounds that it needs, or
its spans may give way to their bounds first. `Anchored` says that no ordering stands before a
group, list or combination with a span in it, where the span becomes a range that keeps nothing of
the ordering.

* `ofItem_resolveBounds`: the test of an item with its spans resolved is that of the item just if
  the item is anchored.
* `ofItems_resolveBounds_iff`: the same of the matchers of a pair, which then accept the same
  documents.
-/

namespace SearchQuery

/-! ## Bounds -/

namespace Value

variable {v w : Value} {bound : Bound}

theorem boundOf?_eq (h : v.resolve? bound = some w) :
    Test.boundOf? v bound = some (.literal w.json) := by
  rw [Test.boundOf?, h]
  rfl

theorem boundOf?_of_not_partial (h : v.isPartial = false) (bound : Bound) :
    Test.boundOf? v bound = some (.literal v.json) :=
  boundOf?_eq (resolve?_of_not_partial h bound)

theorem boundOf?_resolved (h : v.resolve? bound = some w) (other : Bound) :
    Test.boundOf? w other = some (.literal w.json) :=
  boundOf?_of_not_partial (isPartial_of_resolve? h) other

end Value

namespace Operator

theorem bound?_positive (op : Operator) : op.positive.bound? = op.bound? := by
  cases op <;> rfl

theorem positive_of_bound? {op : Operator} {bound : Bound} (h : op.bound? = some bound) :
    op.positive = op := by
  cases op <;> first | rfl | cases h

theorem testBy_inj {op : Operator} {s t : Test} : op.testBy s = op.testBy t ↔ s = t := by
  cases op <;> simp [testBy, isNegative]

end Operator

theorem Test.conjunction_inj {ss ts : List Test} (h : ss.length = ts.length) :
    conjunction ss = conjunction ts ↔ ss = ts := by
  match ss, ts with
  | [], [] => simp
  | [s], [t] => simp [conjunction]
  | s :: s' :: ss, t :: t' :: ts => simp [conjunction]
  | [], _ :: _ | _ :: _, [] | [_], _ :: _ :: _ | _ :: _ :: _, [_] => simp at h

namespace Item

variable {field : String} {v w : Value} {bound : Bound}

/-- A side of a range is tested alike before and after it is resolved. -/
theorem ofSide?_resolveSide {side side' : Item}
    (h : resolveSide field none bound side = .ok side') :
    Test.ofSide? bound side' = Test.ofSide? bound side := by
  obtain ⟨pos, v, w, rfl, hw, rfl⟩ | ⟨-, rfl⟩ := resolveSide_cases h
  · rw [Test.ofSide?, Test.ofSide?, Value.boundOf?_resolved hw, Value.boundOf?_eq hw]
  · rfl

mutual

/-- Every span in the item is the operand of an ordering or under none; `ordered` tells whether the
item itself is under one. -/
def Anchored (ordered : Bool) : Item → Prop
  | value _ v => v.isPartial → ordered = false
  | compare _ op operand =>
    match op.bound?, operand with
    | some _, value _ _ => True
    | bound?, operand => operand.Anchored bound?.isSome
  | list _ items | group _ items => AnchoredAll ordered items
  | and _ left right | or _ left right => left.Anchored ordered ∧ AnchoredAll ordered right
  | not _ operand => operand.Anchored ordered
  | _ => True

/-- Every span in the items is the operand of an ordering or under none. -/
def AnchoredAll (ordered : Bool) : List Item → Prop
  | [] => True
  | item :: items => item.Anchored ordered ∧ AnchoredAll ordered items

end

end Item

/-! ## Tests -/

namespace Test

open Item

variable {field : String} {op : Operator}

/-- A span that is tested on its own becomes the range that it covers. -/
theorem ofItem_resolveBounds_span {v w w' : Value} (hpartial : v.isPartial)
    (hw : v.resolve? .first = some w) (hw' : v.resolve? .last = some w') {pos : Position} {t : Test}
    (h : ofItem field op (.value pos v) = .ok t) :
    ∃ t', ofItem field op (.range pos (.value pos w) (.value pos w')) = .ok t' ∧
      (t' = t ↔ op.bound?.isSome = false) := by
  rw [ofItem] at h
  obtain ⟨s, hs, rfl⟩ := Except.map_eq_ok.1 h
  rw [if_pos hpartial] at hs
  cases hs
  refine ⟨_, by rw [ofItem]; rfl, ?_⟩
  rw [Operator.testBy_inj, ofSide?, ofSide?, Value.boundOf?_resolved hw,
    Value.boundOf?_resolved hw', ofSpan, Operator.bound?_positive]
  cases hbound : op.bound? with
  | none => simp [Value.boundOf?_eq hw, Value.boundOf?_eq hw']
  | some bound => cases bound <;> simp [Value.boundOf?_eq hw, Value.boundOf?_eq hw']

/-- An ordering compares a span with one of its bounds. -/
theorem ofItem_resolveBounds_compare {bound : Bound} (hbound : op.bound? = some bound) {v w : Value}
    (hw : v.resolve? bound = some w) (pos : Position) :
    ofItem field op (.value pos w) = ofItem field op (.value pos v) := by
  cases hpartial : v.isPartial with
  | false =>
    rw [Value.resolve?_of_not_partial hpartial] at hw
    cases hw
    rfl
  | true =>
    have hpositive := Operator.positive_of_bound? hbound
    have hspan : ofSpan op v = compare op (.literal w.json) := by
      rw [ofSpan, hbound]
      simp [Value.boundOf?_eq hw]
    simp [ofItem, hpositive, hpartial, Value.isPartial_of_resolve? hw, hspan]

mutual

/-- An item with its spans resolved has the test of the item just if the item is anchored. -/
theorem ofItem_resolveBounds : (item : Item) → {op : Operator} → {item' : Item} → {t : Test} →
    resolveBounds field none item = .ok item' → ofItem field op item = .ok t →
    ∃ t', ofItem field op item' = .ok t' ∧ (t' = t ↔ item.Anchored op.bound?.isSome)
  | .value pos v, op, item', t, hresolve, ht => by
    obtain ⟨hpartial, rfl⟩ | ⟨hpartial, w, w', hw, hw', rfl⟩ := resolveBounds_value hresolve
    · exact ⟨t, ht, by simp [Anchored, hpartial]⟩
    · simpa [Anchored, hpartial] using ofItem_resolveBounds_span hpartial hw hw' ht
  | .range pos start stop, op, item', t, hresolve, ht => by
    obtain ⟨start', hstart, hresolve⟩ := Except.bind_eq_ok.1 hresolve
    obtain ⟨stop', hstop, ⟨⟩⟩ := Except.bind_eq_ok.1 hresolve
    refine ⟨t, ?_, by simp [Anchored]⟩
    rw [ofItem] at ht ⊢
    rwa [ofSide?_resolveSide hstart, ofSide?_resolveSide hstop]
  | .compare pos inner operand, op, item', t, hresolve, ht => by
    rw [ofItem] at ht
    obtain ⟨s, hs, rfl⟩ := Except.map_eq_ok.1 ht
    split at hs
    case isFalse => cases hs
    rename_i heq
    -- The operator of the comparison takes the place of the one before it.
    suffices hinner : ∃ operand' s', item' = .compare pos inner operand' ∧
        ofItem field inner operand' = .ok s' ∧
        (s' = s ↔ (Item.compare pos inner operand).Anchored op.bound?.isSome) by
      obtain ⟨operand', s', rfl, hs', hiff⟩ := hinner
      refine ⟨_, by rw [ofItem, if_pos heq, hs']; rfl, ?_⟩
      rw [Operator.testBy_inj, hiff]
    obtain ⟨bound, place, v, w, hbound, rfl, hw, rfl⟩ | ⟨operand', hother, hoperand, rfl⟩ :=
      resolveBounds_compare hresolve
    · refine ⟨_, s, rfl, ?_, by simp [Anchored, hbound]⟩
      rwa [ofItem_resolveBounds_compare hbound hw]
    · obtain ⟨s', hs', hiff⟩ := ofItem_resolveBounds operand hoperand hs
      refine ⟨operand', s', rfl, hs', ?_⟩
      rwa [Anchored]
      exact hother
  | .list pos items, op, item', t, hresolve, ht => by
    obtain ⟨items', hitems, ⟨⟩⟩ := Except.bind_eq_ok.1 hresolve
    rw [ofItem] at ht
    obtain ⟨s, hs, rfl⟩ := Except.map_eq_ok.1 ht
    obtain ⟨ts, hts, rfl⟩ := Except.map_eq_ok.1 hs
    obtain ⟨ts', hts', -, hiff⟩ := ofItems_resolveBounds items hitems hts
    rw [Operator.bound?_positive] at hiff
    refine ⟨op.testBy (any ts'), by rw [ofItem, hts']; rfl, ?_⟩
    rw [Operator.testBy_inj, any.injEq, hiff, Anchored]
  | .group pos items, op, item', t, hresolve, ht => by
    obtain ⟨items', hitems, ⟨⟩⟩ := Except.bind_eq_ok.1 hresolve
    rw [ofItem] at ht
    obtain ⟨s, hs, rfl⟩ := Except.map_eq_ok.1 ht
    obtain ⟨ts, hts, rfl⟩ := Except.map_eq_ok.1 hs
    obtain ⟨ts', hts', hlength, hiff⟩ := ofItems_resolveBounds items hitems hts
    rw [Operator.bound?_positive] at hiff
    refine ⟨op.testBy (conjunction ts'), by rw [ofItem, hts']; rfl, ?_⟩
    rw [Operator.testBy_inj, conjunction_inj hlength, hiff, Anchored]
  | .and pos left right, op, item', t, hresolve, ht
  | .or pos left right, op, item', t, hresolve, ht => by
    obtain ⟨left', hleft, hresolve⟩ := Except.bind_eq_ok.1 hresolve
    obtain ⟨right', hright, ⟨⟩⟩ := Except.bind_eq_ok.1 hresolve
    rw [ofItem] at ht
    obtain ⟨s, hs, rfl⟩ := Except.map_eq_ok.1 ht
    obtain ⟨l, hl, hs⟩ := Except.bind_eq_ok.1 hs
    obtain ⟨rs, hrs, ⟨⟩⟩ := Except.bind_eq_ok.1 hs
    obtain ⟨l', hl', hiff⟩ := ofItem_resolveBounds left hleft hl
    obtain ⟨rs', hrs', -, hiff'⟩ := ofItems_resolveBounds right hright hrs
    rw [Operator.bound?_positive] at hiff hiff'
    refine ⟨_, by rw [ofItem, hl', hrs']; rfl, ?_⟩
    simp [Operator.testBy_inj, Anchored, hiff, hiff']
  | .not pos operand, op, item', t, hresolve, ht => by
    obtain ⟨operand', hoperand, ⟨⟩⟩ := Except.bind_eq_ok.1 hresolve
    rw [ofItem] at ht
    obtain ⟨s, hs, rfl⟩ := Except.map_eq_ok.1 ht
    obtain ⟨u, hu, rfl⟩ := Except.map_eq_ok.1 hs
    obtain ⟨u', hu', hiff⟩ := ofItem_resolveBounds operand hoperand hu
    rw [Operator.bound?_positive] at hiff
    refine ⟨op.testBy (not u'), by rw [ofItem, hu']; rfl, ?_⟩
    rw [Operator.testBy_inj, not.injEq, hiff, Anchored]
  | .null _, op, item', t, hresolve, ht | .infinity _, op, item', t, hresolve, ht
  | .wildcard _, op, item', t, hresolve, ht | .anyChar _, op, item', t, hresolve, ht
  | .word _ _, op, item', t, hresolve, ht | .quote _ _, op, item', t, hresolve, ht
  | .pin _ _, op, item', t, hresolve, ht | .pair _ _ _, op, item', t, hresolve, ht
  | .pattern _ _, op, item', t, hresolve, ht => by
    cases hresolve
    exact ⟨t, ht, by simp [Anchored]⟩

theorem ofItems_resolveBounds : (items : List Item) → {op : Operator} → {items' : List Item} →
    {ts : List Test} → resolveBoundsAll field none items = .ok items' →
    ofItems field op items = .ok ts →
    ∃ ts', ofItems field op items' = .ok ts' ∧ ts'.length = ts.length ∧
      (ts' = ts ↔ AnchoredAll op.bound?.isSome items)
  | [], _, _, _, hresolve, hts => by
    cases hresolve
    cases hts
    exact ⟨[], rfl, rfl, by simp [AnchoredAll]⟩
  | item :: items, op, items', ts, hresolve, hts => by
    obtain ⟨item', hitem, hresolve⟩ := Except.bind_eq_ok.1 hresolve
    obtain ⟨items', hitems, ⟨⟩⟩ := Except.bind_eq_ok.1 hresolve
    obtain ⟨t, ht, hts⟩ := Except.bind_eq_ok.1 hts
    obtain ⟨others, hothers, ⟨⟩⟩ := Except.bind_eq_ok.1 hts
    obtain ⟨t', ht', hiff⟩ := ofItem_resolveBounds item hitem ht
    obtain ⟨ts', hts', hlength, hiff'⟩ := ofItems_resolveBounds items hitems hothers
    refine ⟨t' :: ts', ?_, by simp [hlength], by simp [AnchoredAll, hiff, hiff']⟩
    rw [ofItems, ht', hts']
    rfl

end

end Test

/-! ## Matchers -/

namespace Matcher

variable {pos : Position} {key value value' : Item} {field : String}

/-- **Matching by spans and by their bounds.** If a pair compiles, then it also compiles with the
spans of its value resolved. The two matchers are one just if the value is anchored, and then they
accept the same documents. -/
theorem ofItems_resolveBounds_iff {m : Matcher} (hkey : key.fieldName? = some field)
    (hresolve : value.resolveBounds field none = .ok value')
    (hm : ofItems [.pair pos key value] = .ok m) :
    ∃ m', ofItems [.pair pos key value'] = .ok m' ∧ (m' = m ↔ value.Anchored false) ∧
      (value.Anchored false → ∀ doc, m'.accepts doc = m.accepts doc) := by
  rw [ofItems_pair hkey] at hm
  obtain ⟨t, ht, rfl⟩ := Except.map_eq_ok.1 hm
  obtain ⟨t', ht', hiff⟩ := Test.ofItem_resolveBounds value hresolve ht
  have heq : Matcher.field field t' = .field field t ↔ value.Anchored false := by
    simp [hiff, Operator.bound?]
  refine ⟨.field field t', by rw [ofItems_pair hkey, ht']; rfl, heq, fun hanchored doc => ?_⟩
  rw [heq.2 hanchored]

/-- A list of a month and the time from 2021 on. A day of that month is found once its spans are
resolved. -/
theorem ofItems_resolveBounds_iff_month :
    ∃ m m',
      ofItems [.pair ⟨1, 1⟩ (.word ⟨1, 1⟩ "created") (.list ⟨1, 9⟩
        [.value ⟨1, 10⟩ (.partialDate ⟨2020, some 2⟩),
          .compare ⟨1, 18⟩ .gte (.value ⟨1, 20⟩ (.partialDate ⟨2021, none⟩))])] = .ok m ∧
      ofItems [.pair ⟨1, 1⟩ (.word ⟨1, 1⟩ "created") (.list ⟨1, 9⟩
        [.range ⟨1, 10⟩ (.value ⟨1, 10⟩ (.date ⟨2020, 2, 1, by decide⟩))
            (.value ⟨1, 10⟩ (.date ⟨2020, 2, 29, by decide⟩)),
          .compare ⟨1, 18⟩ .gte (.value ⟨1, 20⟩ (.date ⟨2021, 1, 1, by decide⟩))])] = .ok m' ∧
      m' = m ∧ m'.accepts (.object [("created", .string "2020-02-29")]) = true := by
  obtain ⟨m', hm', hiff, haccepts⟩ :=
    @ofItems_resolveBounds_iff ⟨1, 1⟩ (.word ⟨1, 1⟩ "created") (.list ⟨1, 9⟩
      [.value ⟨1, 10⟩ (.partialDate ⟨2020, some 2⟩),
        .compare ⟨1, 18⟩ .gte (.value ⟨1, 20⟩ (.partialDate ⟨2021, none⟩))])
      _ "created" _ rfl rfl rfl
  have hanchored : Item.Anchored false (.list ⟨1, 9⟩
      [.value ⟨1, 10⟩ (.partialDate ⟨2020, some 2⟩),
        .compare ⟨1, 18⟩ .gte (.value ⟨1, 20⟩ (.partialDate ⟨2021, none⟩))]) := by
    simp [Item.Anchored, Item.AnchoredAll, Operator.bound?]
  exact ⟨_, m', rfl, hm', hiff.2 hanchored, (haccepts hanchored _).trans rfl⟩

/-- A group of a span under an ordering: the second half of 2021 is after 2020, but it is not within
the range that its span gives way to. -/
theorem resolveBounds_forgets_ordering :
    ∃ value' m m',
      (Item.compare ⟨1, 9⟩ .gt (.group ⟨1, 10⟩
        [.value ⟨1, 11⟩ (.partialDate ⟨2020, none⟩)])).resolveBounds "created" none = .ok value' ∧
      ofItems [.pair ⟨1, 1⟩ (.word ⟨1, 1⟩ "created") (.compare ⟨1, 9⟩ .gt (.group ⟨1, 10⟩
        [.value ⟨1, 11⟩ (.partialDate ⟨2020, none⟩)]))] = .ok m ∧
      ofItems [.pair ⟨1, 1⟩ (.word ⟨1, 1⟩ "created") value'] = .ok m' ∧
      m.accepts (.object [("created", .string "2021-06-01")]) = true ∧
      m'.accepts (.object [("created", .string "2021-06-01")]) = false :=
  ⟨_, _, _, rfl, rfl, rfl, rfl, rfl⟩

end Matcher

end SearchQuery
