import Mathlib.Data.List.Basic
import Mathlib.Tactic.Common
import SearchQuery.Proofs.Document.Reading
import SearchQuery.Query

/-!
# Single operands in parentheses

A word or quote may stand in parentheses wherever a value is allowed. `ofItem_group_singleton` says
that its test is the same then, except at the end of a range, where a group counts as no bound at
all (`ofSide?_group`).

* `accepts_parenthesized_iff`: the four places, and the documents on which the range differs.
-/

namespace SearchQuery

namespace Json

/-- The value does not come before a text. -/
def AtLeast (v : Json) (text : String) : Prop := ∃ o, v.order? (.string text) = some o ∧ o.isGE

/-- The value does not come after a text. -/
def AtMost (v : Json) (text : String) : Prop := ∃ o, v.order? (.string text) = some o ∧ o.isLE

end Json

namespace Test

variable {doc v : Json} {text : String}

theorem meets_gte : meets doc .gte v (some (.literal (.string text))) ↔ v.AtLeast text := by
  unfold meets Json.AtLeast
  cases h : v.order? (.string text) <;> simp [Operand.resolve?, Operator.admits, h]

theorem meets_lte : meets doc .lte v (some (.literal (.string text))) ↔ v.AtMost text := by
  unfold meets Json.AtMost
  cases h : v.order? (.string text) <;> simp [Operand.resolve?, Operator.admits, h]

/-- The test of a group of one item is that of the item. -/
theorem ofItem_group_singleton (field : String) (op : Operator) (pos : Position) (item : Item) :
    ofItem field op (.group pos [item]) = ofItem field op item := by
  rw [ofItem_eq_testBy field op item, ofItem, ofItems, ofItems]
  cases ofItem field op.positive item <;> rfl

theorem ofSide?_text {side : Item} (h : side.text? = some text) (bound : Bound) :
    ofSide? bound side = some (.literal (.string text)) := by
  cases side with
  | word | quote =>
    cases h
    rfl
  | _ => cases h

/-- A group is no bound of a range. -/
theorem ofSide?_group (bound : Bound) (pos : Position) (items : List Item) :
    ofSide? bound (.group pos items) = none := rfl

/-- The test of a word or quote compares with its text. -/
theorem ofItem_text {item : Item} (h : item.text? = some text) (field : String) (op : Operator) :
    ofItem field op item = .ok (op.testBy (compare op.positive (.literal (.string text)))) := by
  cases item with
  | word | quote =>
    cases h
    rfl
  | _ => cases h

end Test

namespace Matcher

open Test

variable {key x y : Item} {field first last : String}

/-- **Parentheses around one operand.** A word or quote in parentheses is matched as without them
behind a key, behind an operator and in a list. A range that it ends is then open, so that the two
differ on the documents with a value from the start of the range on, but none up to its end. -/
theorem accepts_parenthesized_iff (hkey : key.fieldName? = some field) (hy : y.text? = some first)
    (hx : x.text? = some last) (op : Operator) (pos place place' : Position) :
    (∃ m, ofItems [.pair pos key (.group place [x])] = .ok m ∧
        ofItems [.pair pos key x] = .ok m) ∧
      (∃ m, ofItems [.pair pos key (.compare place op (.group place' [x]))] = .ok m ∧
        ofItems [.pair pos key (.compare place op x)] = .ok m) ∧
      (∃ m, ofItems [.pair pos key (.list place [y, .group place' [x]])] = .ok m ∧
        ofItems [.pair pos key (.list place [y, x])] = .ok m) ∧
      ∃ grouped bare, ofItems [.pair pos key (.range place y (.group place' [x]))] = .ok grouped ∧
        ofItems [.pair pos key (.range place y x)] = .ok bare ∧
        ∀ doc, grouped.accepts doc = bare.accepts doc ↔
          ((∃ v ∈ Json.slotValues (doc.lookup? field), v.AtLeast first) →
            ∃ v ∈ Json.slotValues (doc.lookup? field), v.AtLeast first ∧ v.AtMost last) := by
  simp only [ofItems_pair hkey]
  refine ⟨?bare, ?compare, ?list, ?range⟩
  case bare =>
    rw [ofItem_group_singleton, ofItem_text hx]
    exact ⟨_, rfl, rfl⟩
  case compare =>
    rw [ofItem, ofItem, ofItem_group_singleton, ofItem_text hx]
    exact ⟨_, rfl, rfl⟩
  case list =>
    have hsame : Test.ofItems field Operator.eq.positive [y, .group place' [x]] =
        Test.ofItems field Operator.eq.positive [y, x] := by
      simp only [Test.ofItems, ofItem_group_singleton]
    have hok : Test.ofItem field .eq (.list place [y, x]) = .ok (.any
        [.compare .eq (.literal (.string first)), .compare .eq (.literal (.string last))]) := by
      rw [ofItem, Test.ofItems, Test.ofItems, Test.ofItems, ofItem_text hx, ofItem_text hy]
      rfl
    have hok' : Test.ofItem field .eq (.list place [y, .group place' [x]]) =
        Test.ofItem field .eq (.list place [y, x]) := by
      rw [ofItem, ofItem, hsame]
    rw [hok', hok]
    exact ⟨_, rfl, rfl⟩
  case range =>
    rw [ofItem, ofItem, ofSide?_group, ofSide?_text hy, ofSide?_text hx]
    refine ⟨_, _, rfl, rfl, fun doc => ?_⟩
    simp only [accepts, Operator.testBy, Operator.isNegative, Bool.false_eq_true, if_false, passes]
    generalize Json.slotValues (doc.lookup? field) = values
    rw [Bool.eq_iff_iff, List.any_eq_true, List.any_eq_true]
    simp only [Bool.and_eq_true, meets_gte, meets_lte]
    constructor
    · rintro h ⟨v, hv, hfirst⟩
      exact h.1 ⟨v, hv, hfirst, rfl⟩
    · intro h
      constructor
      · rintro ⟨v, hv, hfirst, -⟩
        exact h ⟨v, hv, hfirst⟩
      · rintro ⟨v, hv, hfirst, -⟩
        exact ⟨v, hv, hfirst, rfl⟩

/-- Of a field with two values, the second lies in the range, with parentheses and without. -/
theorem accepts_parenthesized_iff_within :
    let key : Item := .word ⟨1, 1⟩ "size"
    let doc : Json := .object [("size", .array [.string "9", .string "3"])]
    ∃ grouped bare,
      ofItems [.pair ⟨1, 1⟩ key (.range ⟨1, 6⟩ (.word ⟨1, 6⟩ "1")
        (.group ⟨1, 9⟩ [.word ⟨1, 10⟩ "5"]))] = .ok grouped ∧
      ofItems [.pair ⟨1, 1⟩ key (.range ⟨1, 6⟩ (.word ⟨1, 6⟩ "1") (.word ⟨1, 10⟩ "5"))] =
        .ok bare ∧
      grouped.accepts doc = bare.accepts doc := by
  intro key doc
  obtain ⟨-, -, -, hrange⟩ := @accepts_parenthesized_iff key (.word ⟨1, 10⟩ "5") (.word ⟨1, 6⟩ "1")
    "size" "1" "5" rfl rfl rfl .gt ⟨1, 1⟩ ⟨1, 6⟩ ⟨1, 9⟩
  obtain ⟨grouped, bare, hgrouped, hbare, h⟩ := hrange
  refine ⟨grouped, bare, hgrouped, hbare, (h doc).2 fun _ => ⟨.string "3", ?_, ⟨.gt, ?_⟩, .lt, ?_⟩⟩
  · exact List.mem_cons_of_mem _ (List.mem_singleton_self _)
  · exact ⟨rfl, rfl⟩
  · exact ⟨rfl, rfl⟩

/-- A range whose end stands in parentheses is read, but what is beyond the end is found too. -/
theorem accepts_parenthesized_beyond :
    let key : Item := .word ⟨1, 1⟩ "age"
    let first : Item := .word ⟨1, 5⟩ "1"
    let last : Item := .word ⟨1, 9⟩ "5"
    let doc : Json := .object [("age", .string "9")]
    Query.parse Query.defaultLimit "age:1..(5)" =
        .ok [.pair ⟨1, 1⟩ key (.range ⟨1, 5⟩ first (.group ⟨1, 8⟩ [last]))] ∧
      answer doc [.pair ⟨1, 1⟩ key (.range ⟨1, 5⟩ first (.group ⟨1, 8⟩ [last]))] = .ok true ∧
      answer doc [.pair ⟨1, 1⟩ key (.range ⟨1, 5⟩ first last)] = .ok false :=
  ⟨rfl, rfl, rfl⟩

end Matcher

end SearchQuery
