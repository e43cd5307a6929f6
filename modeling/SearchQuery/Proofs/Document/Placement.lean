import Mathlib.Tactic.Common
import SearchQuery.Document.Matcher

/-!
# Positions take no part in matching

`ofItems_unplacedAll`: items without their positions compile into the same matcher, or fail for the
same reason.
-/

namespace SearchQuery

open Item

theorem Item.fieldName?_unplaced (item : Item) : item.unplaced.fieldName? = item.fieldName? := by
  cases item <;> rfl

namespace Glob

mutual

theorem ofItem_unplaced : (item : Item) → ofItem item.unplaced = ofItem item
  | .pattern _ pieces => by rw [unplaced, ofItem, ofItem, ofItems_unplacedAll pieces]
  | .wildcard _ | .anyChar _ | .word _ _ | .quote _ _ | .value _ _ | .null _ | .infinity _
  | .pin _ _ | .pair _ _ _ | .compare _ _ _ | .range _ _ _ | .list _ _ | .group _ _ | .and _ _ _
  | .or _ _ _ | .not _ _ => rfl

theorem ofItems_unplacedAll : (items : List Item) → ofItems (unplacedAll items) = ofItems items
  | [] => rfl
  | item :: items => by
    rw [unplacedAll, ofItems, ofItems, ofItem_unplaced item, ofItems_unplacedAll items]

end

end Glob

namespace Test

variable {field : String}

theorem ofSide?_unplaced (bound : Bound) (side : Item) :
    ofSide? bound side.unplaced = ofSide? bound side := by
  cases side with
  | pin pos target => rw [unplaced, ofSide?, ofSide?, fieldName?_unplaced]
  | _ => rfl

mutual

theorem ofItem_unplaced (op : Operator) : (item : Item) →
    ofItem field op item.unplaced = ofItem field op item
  | .pattern _ pieces => by rw [unplaced, ofItem, ofItem, Glob.ofItems_unplacedAll pieces]
  | .pin _ target => by rw [unplaced, ofItem, ofItem, fieldName?_unplaced]
  | .compare _ inner operand => by
    rw [unplaced, ofItem, ofItem, ofItem_unplaced inner operand]
  | .range _ start stop => by
    rw [unplaced, ofItem, ofItem, ofSide?_unplaced, ofSide?_unplaced]
  | .list _ items | .group _ items => by
    rw [unplaced, ofItem, ofItem, ofItems_unplacedAll op.positive items]
  | .and _ left right | .or _ left right => by
    rw [unplaced, ofItem, ofItem, ofItem_unplaced op.positive left,
      ofItems_unplacedAll op.positive right]
  | .not _ operand => by rw [unplaced, ofItem, ofItem, ofItem_unplaced op.positive operand]
  | .null _ | .infinity _ | .wildcard _ | .anyChar _ | .word _ _ | .quote _ _ | .value _ _
  | .pair _ _ _ => rfl

theorem ofItems_unplacedAll (op : Operator) : (items : List Item) →
    ofItems field op (unplacedAll items) = ofItems field op items
  | [] => rfl
  | item :: items => by
    rw [unplacedAll, ofItems, ofItems, ofItem_unplaced op item, ofItems_unplacedAll op items]

end

end Test

namespace PredicateBuilder

variable {P E : Type} {b : PredicateBuilder P E}

/-- What a backend states does not depend on positions. -/
structure Blind (b : PredicateBuilder P E) : Prop where
  pair (path : String) (v : Item) : b.pair path v.unplaced = b.pair path v
  term (item : Item) : b.term item.unplaced = b.term item

mutual

theorem Blind.buildItem (hb : b.Blind) : (item : Item) →
    b.buildItem item.unplaced = b.buildItem item
  | .group _ items => by
    rw [unplaced, PredicateBuilder.buildItem, PredicateBuilder.buildItem, hb.buildItems items]
  | .and _ left right | .or _ left right => by
    rw [unplaced, PredicateBuilder.buildItem, PredicateBuilder.buildItem, hb.buildItem left,
      hb.buildItems right]
  | .not _ operand => by
    rw [unplaced, PredicateBuilder.buildItem, PredicateBuilder.buildItem, hb.buildItem operand]
  | .pair pos key v => by
    have hterm := hb.term (.pair pos key v)
    rw [unplaced] at hterm ⊢
    rw [PredicateBuilder.buildItem, PredicateBuilder.buildItem, fieldName?_unplaced, hterm]
    cases key.fieldName? with
    | none => rfl
    | some field => exact hb.pair field v
  | .null _ | .infinity _ | .wildcard _ | .anyChar _ | .word _ _ | .quote _ _ | .value _ _
  | .pin _ _ | .compare _ _ _ | .range _ _ _ | .list _ _ | .pattern _ _ => hb.term _

theorem Blind.buildItems (hb : b.Blind) : (items : List Item) →
    b.buildItems (unplacedAll items) = b.buildItems items
  | [] => rfl
  | item :: items => by
    rw [unplacedAll, PredicateBuilder.buildItems, PredicateBuilder.buildItems, hb.buildItem item,
      hb.buildItems items]

end

end PredicateBuilder

namespace Matcher

theorem builder_blind : builder.Blind where
  pair path v := by
    show (Test.ofItem path .eq v.unplaced).map _ = (Test.ofItem path .eq v).map _
    rw [Test.ofItem_unplaced]
  term item := by
    have hoperator : termOperator item.unplaced = termOperator item := by cases item <;> rfl
    show (Test.ofItem "" (termOperator item.unplaced) item.unplaced).map _ =
      (Test.ofItem "" (termOperator item) item).map _
    rw [hoperator, Test.ofItem_unplaced]

/-- Items compile alike without their positions. -/
theorem ofItems_unplacedAll (items : List Item) : ofItems (unplacedAll items) = ofItems items := by
  rw [ofItems, ofItems, PredicateBuilder.build, PredicateBuilder.build,
    builder_blind.buildItems items]

end Matcher

end SearchQuery
