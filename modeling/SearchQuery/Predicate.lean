import SearchQuery.Item.Basic

/-!
# Predicates

A backend that can state a condition on one field, a free condition, and their conjunction,
disjunction and negation can state a whole query. `PredicateBuilder.build` puts its pieces together:

* a query and a group are the conjunction of their items;
* `left AND right…` and `left OR right…` join the left item and the conjunction of the right ones;
* `NOT item` is a negation;
* `key:value` is a condition on the field that the key names, and any other item a free condition.
-/

namespace SearchQuery

/-- How a backend states predicates of type `P`; it may refuse an item with an error of type `E`. -/
structure PredicateBuilder (P E : Type) where
  /-- A condition on a field. -/
  pair : String → Item → Except E P
  /-- A free condition. -/
  term : Item → Except E P
  all : List P → P
  any : List P → P
  negate : P → P

namespace PredicateBuilder

variable {P E : Type}

mutual

/-- The predicate of one item. -/
def buildItem (b : PredicateBuilder P E) : Item → Except E P
  | .group _ items => do return b.all (← b.buildItems items)
  | .and _ left right => do return b.all [← b.buildItem left, b.all (← b.buildItems right)]
  | .or _ left right => do return b.any [← b.buildItem left, b.all (← b.buildItems right)]
  | .not _ operand => do return b.negate (← b.buildItem operand)
  | .pair pos key value =>
    match key.fieldName? with
    | some field => b.pair field value
    | none => b.term (.pair pos key value)
  | item => b.term item

/-- The predicates of several items. -/
def buildItems (b : PredicateBuilder P E) : List Item → Except E (List P)
  | [] => .ok []
  | item :: items => do return (← b.buildItem item) :: (← b.buildItems items)

end

/-- The predicate of a query. -/
def build (b : PredicateBuilder P E) (items : List Item) : Except E P :=
  (b.buildItems items).map b.all

end PredicateBuilder

end SearchQuery
