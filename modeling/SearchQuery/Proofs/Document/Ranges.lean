import SearchQuery.Proofs.Document.FieldOrder
import SearchQuery.Proofs.Document.ResolvedBounds

/-!
# Ranges and comparisons with their sides

A range asks for one value between two sides, and an ordering compares a value with one operand.
Both take the same bound of a span: its first moment at the start of a range and behind `>=`, its
last at the end of a range and behind `<=`.

* `Test.ofItem_of_ofSide?`: an ordering compares with what a range has on that side.
* `Test.passes_between`: a slot passes a range if one of its values passes both comparisons.
* `Matcher.accepts_range`: a range against the comparisons with its sides.
-/

namespace SearchQuery

/-- The item ends a range on one side. A span does if it has the bound that is needed there. -/
def Item.Closes (bound : Bound) : Item → Prop
  | word _ _ | quote _ _ | pin _ _ => True
  | value _ v => v.isPartial → ∃ w, v.resolve? bound = some w
  | _ => False

namespace Test

variable {bound : Bound} {side : Item} {operand low high : Operand} {doc : Json}
  {slot : Option Json}

theorem exists_ofSide? (h : side.Closes bound) : ∃ operand, ofSide? bound side = some operand := by
  cases side with
  | word | quote | pin => exact ⟨_, rfl⟩
  | value pos v =>
    cases hpartial : v.isPartial with
    | false => exact ⟨_, Value.boundOf?_of_not_partial hpartial bound⟩
    | true =>
      obtain ⟨w, hw⟩ := h hpartial
      exact ⟨_, Value.boundOf?_eq hw⟩
  | _ => exact h.elim

/-- An ordering compares with the operand that a range has on the side of its bound. -/
theorem ofItem_of_ofSide? (field : String) (op : Operator) (hbound : op.bound? = some bound)
    (hside : ofSide? bound side = some operand) :
    ofItem field op side = .ok (compare op operand) := by
  have hpositive : op.positive = op := Operator.positive_of_bound? hbound
  have htest : op.testBy (compare op operand) = compare op operand :=
    Operator.testBy_of_not_isNegative (hpositive ▸ op.isNegative_positive) _
  cases side with
  | word | quote | pin =>
    cases hside
    rw [ofItem, hpositive]
    exact congrArg Except.ok htest
  | value pos v =>
    -- the bound of a span stands for the span here
    obtain ⟨w, hw, rfl⟩ := Option.map_eq_some_iff.1 hside
    rw [← ofItem_resolveBounds_compare hbound hw, ofItem, hpositive, Value.isPartial_of_resolve? hw]
    exact congrArg Except.ok htest
  | _ => cases hside

/-- A value is on the right side of a bound if the ordering holds between the two. -/
theorem meets_eq_comparison (op : Operator) (hop : op.bound?.isSome) (doc : Json)
    (operand : Operand) (v : Json) :
    meets doc op v (some operand) = comparison doc op operand v := by
  have hholds (w : Json) : op.holds v w = ((v.order? w).map op.admits).getD false := by
    cases op <;> first | rfl | cases hop
  rw [meets, comparison]
  cases operand.resolve? doc with
  | none => rfl
  | some w => exact (hholds w).symm

/-- Every value is on the right side of an open end. -/
theorem meets_none (doc : Json) (op : Operator) (v : Json) : meets doc op v none = true := rfl

theorem passes_between : (between (some low) (some high)).passes doc slot =
    (Json.slotValues slot).any fun v =>
      comparison doc .gte low v && comparison doc .lte high v := by
  rw [passes]
  simp only [meets_eq_comparison .gte rfl, meets_eq_comparison .lte rfl]

theorem passes_between_from :
    (between (some low) none).passes doc slot = (compare .gte low).passes doc slot := by
  rw [passes, passes]
  simp only [meets_eq_comparison .gte rfl, meets_none, Bool.and_true]

theorem passes_between_upTo :
    (between none (some high)).passes doc slot = (compare .lte high).passes doc slot := by
  rw [passes, passes]
  simp only [meets_eq_comparison .lte rfl, meets_none, Bool.true_and]

/-- A value between two sides is in order with both. -/
theorem passes_of_between (h : (between (some low) (some high)).passes doc slot) :
    (compare .gte low).passes doc slot ∧ (compare .lte high).passes doc slot := by
  rw [passes_between, List.any_eq_true] at h
  obtain ⟨v, hv, hbetween⟩ := h
  rw [Bool.and_eq_true] at hbetween
  rw [passes, passes, List.any_eq_true, List.any_eq_true]
  exact ⟨⟨v, hv, hbetween.1⟩, v, hv, hbetween.2⟩

/-- What is in order with both sides is between them, if it is one value. -/
theorem passes_between_of_single (hsingle : ∀ v, slot = some v → v.IsSingle)
    (hlow : (compare .gte low).passes doc slot) (hhigh : (compare .lte high).passes doc slot) :
    (between (some low) (some high)).passes doc slot := by
  rw [passes] at hlow hhigh
  rw [passes_between]
  cases slot with
  | none => cases hlow
  | some v =>
    rw [(hsingle v rfl).slotValues, List.any_cons, List.any_nil, Bool.or_false] at hlow hhigh ⊢
    rw [hlow, hhigh]
    rfl

end Test

namespace Matcher

variable {key start stop : Item} {field : String}

/-- **Ranges as conjunctions.** A document that matches a range matches the comparisons with both
sides, and the other way round unless the field holds an array. A range that is open on one side is
matched as the comparison with the other side. -/
theorem accepts_range (hkey : key.fieldName? = some field) (hstart : start.Closes .first)
    (hstop : stop.Closes .last) (pos place place' : Position) :
    ∃ range onward upTo least most : Matcher,
      ofItems [.pair pos key (.range place start stop)] = .ok range ∧
      ofItems [.pair pos key (.range place start (.infinity place'))] = .ok onward ∧
      ofItems [.pair pos key (.range place (.infinity place') stop)] = .ok upTo ∧
      ofItems [.pair pos key (.compare place .gte start)] = .ok least ∧
      ofItems [.pair pos key (.compare place .lte stop)] = .ok most ∧
      ∀ doc : Json, (range.accepts doc → least.accepts doc ∧ most.accepts doc) ∧
        ((∀ v, doc.lookup? field = some v → v.IsSingle) →
          least.accepts doc → most.accepts doc → range.accepts doc) ∧
        onward.accepts doc = least.accepts doc ∧ upTo.accepts doc = most.accepts doc := by
  obtain ⟨low, hlow⟩ := Test.exists_ofSide? hstart
  obtain ⟨high, hhigh⟩ := Test.exists_ofSide? hstop
  have hrange (first last : Item) : Test.ofItem field .eq (.range place first last) =
      .ok (.between (Test.ofSide? .first first) (Test.ofSide? .last last)) := by
    rw [Test.ofItem]
    rfl
  have hopen (bound : Bound) : Test.ofSide? bound (.infinity place') = none := rfl
  have hleast : Test.ofItem field .eq (.compare place .gte start) = .ok (.compare .gte low) := by
    rw [Test.ofItem, Test.ofItem_of_ofSide? field .gte rfl hlow]
    rfl
  have hmost : Test.ofItem field .eq (.compare place .lte stop) = .ok (.compare .lte high) := by
    rw [Test.ofItem, Test.ofItem_of_ofSide? field .lte rfl hhigh]
    rfl
  simp only [ofItems_pair hkey, hrange, hopen, hlow, hhigh, hleast, hmost]
  refine ⟨_, _, _, _, _, rfl, rfl, rfl, rfl, rfl, fun doc => ?_⟩
  simp only [accepts]
  exact ⟨Test.passes_of_between, Test.passes_between_of_single, Test.passes_between_from,
    Test.passes_between_upTo⟩

/-- The last day of a month is in the range from the month to the day that another field holds. -/
theorem accepts_range_month :
    let doc : Json := .object [("due", .string "2020-03-01"), ("opened", .string "2020-02-29")]
    let key : Item := .word ⟨1, 1⟩ "opened"
    let start : Item := .value ⟨1, 8⟩ (.partialDate ⟨2020, some 2⟩)
    let stop : Item := .pin ⟨1, 17⟩ (.word ⟨1, 18⟩ "due")
    key.fieldName? = some "opened" ∧ start.Closes .first ∧ stop.Closes .last ∧
      (∀ v, doc.lookup? "opened" = some v → v.IsSingle) ∧
      answer doc [.pair ⟨1, 1⟩ key (.compare ⟨1, 8⟩ .gte start)] = .ok true ∧
      answer doc [.pair ⟨1, 1⟩ key (.compare ⟨1, 8⟩ .lte stop)] = .ok true ∧
      answer doc [.pair ⟨1, 1⟩ key (.range ⟨1, 8⟩ start stop)] = .ok true := by
  intro doc key start stop
  have hstart : start.Closes .first := fun _ => ⟨.date ⟨2020, 2, 1, by decide⟩, rfl⟩
  have hsingle : ∀ v, doc.lookup? "opened" = some v → v.IsSingle := by
    rintro v ⟨⟩
    nofun
  have hleast : answer doc [.pair ⟨1, 1⟩ key (.compare ⟨1, 8⟩ .gte start)] = .ok true := rfl
  have hmost : answer doc [.pair ⟨1, 1⟩ key (.compare ⟨1, 8⟩ .lte stop)] = .ok true := rfl
  refine ⟨rfl, hstart, trivial, hsingle, hleast, hmost, ?_⟩
  obtain ⟨range, _, _, least, most, hrange, -, -, hleast', hmost', h⟩ :=
    @accepts_range key start stop "opened" rfl hstart trivial ⟨1, 1⟩ ⟨1, 8⟩ ⟨1, 17⟩
  rw [answer, hleast'] at hleast
  rw [answer, hmost'] at hmost
  rw [answer, hrange]
  exact congrArg Except.ok ((h doc).2.1 hsingle (Except.ok.inj hleast) (Except.ok.inj hmost))

/-- Of two values one may be late enough for the range and the other early enough. -/
example :
    let doc : Json := .object [("size", .array [.string "1", .string "9"])]
    let key : Item := .word ⟨1, 1⟩ "size"
    let start : Item := .word ⟨1, 6⟩ "3"
    let stop : Item := .word ⟨1, 9⟩ "5"
    answer doc [.pair ⟨1, 1⟩ key (.compare ⟨1, 6⟩ .gte start)] = .ok true ∧
      answer doc [.pair ⟨1, 1⟩ key (.compare ⟨1, 6⟩ .lte stop)] = .ok true ∧
      answer doc [.pair ⟨1, 1⟩ key (.range ⟨1, 6⟩ start stop)] = .ok false :=
  ⟨rfl, rfl, rfl⟩

end Matcher

end SearchQuery
