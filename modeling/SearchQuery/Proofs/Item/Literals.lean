import Mathlib.Data.List.Basic
import Mathlib.Tactic.Common
import SearchQuery.Proofs.Item.WellFormed

/-!
# Literals and pairs

What a value tests for, and the pairs of a query.

* `literals_eq_nil`: a value without literals at its nodes tests for none.
* `forall_nodes_of_pairs`: what holds at the nodes of a query holds at those of the values of its
  pairs.
-/

namespace SearchQuery.Item

/-- The literal that an item is. -/
def literal? : Item → Option Value
  | value _ v => some v
  | _ => none

mutual

/-- The literals that a value tests for: bare ones, operands, elements of lists and sides of ranges.
A side of a range that is no literal has none, nor have pins and patterns. -/
def literals : Item → List Value
  | value _ v => [v]
  | compare _ _ operand | not _ operand => operand.literals
  | range _ start stop => start.literal?.toList ++ stop.literal?.toList
  | list _ items | group _ items => literalsAll items
  | and _ left right | or _ left right => left.literals ++ literalsAll right
  | _ => []

/-- The literals that several values test for. -/
def literalsAll : List Item → List Value
  | [] => []
  | item :: items => item.literals ++ literalsAll items

end

mutual

/-- The keys and values of the pairs in an item. A pair inside the value of another belongs to that
value. -/
def pairs : Item → List (Item × Item)
  | pair _ key v => [(key, v)]
  | pin _ inner | compare _ _ inner | not _ inner => inner.pairs
  | range _ start stop => start.pairs ++ stop.pairs
  | list _ items | group _ items | pattern _ items => pairsAll items
  | and _ left right | or _ left right => left.pairs ++ pairsAll right
  | _ => []

/-- The keys and values of the pairs in several items. -/
def pairsAll : List Item → List (Item × Item)
  | [] => []
  | item :: items => item.pairs ++ pairsAll items

end

/-! ## Nodes -/

theorem mem_nodes_self (item : Item) : item ∈ item.nodes := by
  cases item <;> simp [nodes]

mutual

/-- Where no node is a literal there are none to test for. -/
theorem literals_eq_nil : (item : Item) → (∀ node ∈ item.nodes, node.literal? = none) →
    item.literals = []
  | .value pos v, h => by simp [nodes, literal?] at h
  | .range _ start stop, h => by
    rw [nodes, List.forall_mem_cons, List.forall_mem_append] at h
    have hstart := h.2.1 start start.mem_nodes_self
    have hstop := h.2.2 stop stop.mem_nodes_self
    rw [literals, hstart, hstop]
    rfl
  | .compare _ _ operand, h | .not _ operand, h => by
    rw [nodes, List.forall_mem_cons] at h
    exact literals_eq_nil operand h.2
  | .list _ items, h | .group _ items, h => by
    rw [nodes, List.forall_mem_cons] at h
    exact literalsAll_eq_nil items h.2
  | .and _ left right, h | .or _ left right, h => by
    rw [nodes, List.forall_mem_cons, List.forall_mem_append] at h
    rw [literals, literals_eq_nil left h.2.1, literalsAll_eq_nil right h.2.2, List.append_nil]
  | .null _, _ | .infinity _, _ | .wildcard _, _ | .anyChar _, _ | .word _ _, _ | .quote _ _, _
  | .pin _ _, _ | .pair _ _ _, _ | .pattern _ _, _ => rfl

theorem literalsAll_eq_nil : (items : List Item) →
    (∀ node ∈ nodesAll items, node.literal? = none) → literalsAll items = []
  | [], _ => rfl
  | item :: items, h => by
    rw [nodesAll, List.forall_mem_append] at h
    rw [literalsAll, literals_eq_nil item h.1, literalsAll_eq_nil items h.2, List.append_nil]

end

mutual

theorem forall_nodes_of_pair {P : Item → Prop} : (item : Item) → (∀ node ∈ item.nodes, P node) →
    ∀ p ∈ item.pairs, ∀ node ∈ p.2.nodes, P node
  | .pair _ key v, h => by
    rw [nodes, List.forall_mem_cons, List.forall_mem_append] at h
    rw [pairs, List.forall_mem_singleton]
    exact h.2.2
  | .pin _ inner, h | .compare _ _ inner, h | .not _ inner, h => by
    rw [nodes, List.forall_mem_cons] at h
    exact forall_nodes_of_pair inner h.2
  | .range _ start stop, h => by
    rw [nodes, List.forall_mem_cons, List.forall_mem_append] at h
    rw [pairs, List.forall_mem_append]
    exact ⟨forall_nodes_of_pair start h.2.1, forall_nodes_of_pair stop h.2.2⟩
  | .list _ items, h | .group _ items, h | .pattern _ items, h => by
    rw [nodes, List.forall_mem_cons] at h
    exact forall_nodes_of_pairs items h.2
  | .and _ left right, h | .or _ left right, h => by
    rw [nodes, List.forall_mem_cons, List.forall_mem_append] at h
    rw [pairs, List.forall_mem_append]
    exact ⟨forall_nodes_of_pair left h.2.1, forall_nodes_of_pairs right h.2.2⟩
  | .null _, _ | .infinity _, _ | .wildcard _, _ | .anyChar _, _ | .word _ _, _ | .quote _ _, _
  | .value _ _, _ => by simp [pairs]

/-- What holds at the nodes of items holds at those of the values of their pairs. -/
theorem forall_nodes_of_pairs {P : Item → Prop} : (items : List Item) →
    (∀ node ∈ nodesAll items, P node) → ∀ p ∈ pairsAll items, ∀ node ∈ p.2.nodes, P node
  | [], _ => by simp [pairsAll]
  | item :: items, h => by
    rw [nodesAll, List.forall_mem_append] at h
    rw [pairsAll, List.forall_mem_append]
    exact ⟨forall_nodes_of_pair item h.1, forall_nodes_of_pairs items h.2⟩

end

/-- The values of the pairs of a sequence that is read test for no literals yet. -/
theorem IsSequence.literals_eq_nil {items : List Item} (h : IsSequence IsTerm items)
    {key v : Item} (hpair : (key, v) ∈ pairsAll items) : v.literals = [] := by
  refine Item.literals_eq_nil v fun node hnode => ?_
  have hform := forall_nodes_of_pairs items h.wellFormed (key, v) hpair node hnode
  cases node <;> first | rfl | cases hform

end SearchQuery.Item
