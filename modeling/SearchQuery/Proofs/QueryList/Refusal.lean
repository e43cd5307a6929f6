import Mathlib
import SearchQuery.Proofs.Except
import SearchQuery.Proofs.Item.WellFormed
import SearchQuery.Proofs.Query.RoundTrip
import SearchQuery.QueryList.Basic

/-!
# Queries without a query list

Pairs, operators and keywords have no form as values. At the top, the key of a pair and the
operator before a value are parts of an entry, so what an item says besides them decides whether it
has one.

* `QueryValue.error?_ofItem`: an item is refused for the first of its nodes without a form.
* `QueryList.ofItems_refuses`: which queries have a query list, and for what the others are refused.
-/

namespace SearchQuery

namespace Item

/-- The operand of a comparison, and any other item as it is. -/
def operand : Item → Item
  | compare _ _ operand => operand
  | item => item

/-- What an item has to say as a value: without its key if it is a pair, and without the operator
before it. -/
def payload : Item → Item
  | pair _ _ v => v.operand
  | item => item.operand

/-- Whether items of this sort have no form as values. -/
def isUnlisted : Item → Bool
  | pair _ _ _ | compare _ _ _ | and _ _ _ | or _ _ _ | not _ _ => true
  | _ => false

end Item

/-- The error that reports an item. -/
def QueryListError.ofItem (item : Item) : QueryListError := .unsupported item.termName

open Item

/-! ## Values -/

namespace QueryValue

mutual

/-- An item is refused for the first of its nodes that has no form as a value. -/
theorem error?_ofItem : (item : Item) → (∀ node ∈ item.nodes, node.WellFormed) →
    Except.error? (ofItem item) = (item.nodes.find? isUnlisted).map QueryListError.ofItem
  | .null _, _ | .infinity _, _ | .wildcard _, _ | .anyChar _, _ | .word _ _, _ | .quote _ _, _
  | .value _ _, _ => rfl
  | .pair _ _ _, _ | .compare _ _ _, _ | .and _ _ _, _ | .or _ _ _, _ | .not _ _, _ => rfl
  | .pin pos target, h => by
    have hname : target.isNameSort := h (.pin pos target) (by simp [nodes])
    cases target with
    | word | quote => rfl
    | _ => cases hname
  | .range _ start stop, h => by
    rw [nodes, List.forall_mem_cons, List.forall_mem_append] at h
    rw [ofItem, Except.error?_map₂, error?_ofItem start h.2.1, error?_ofItem stop h.2.2, nodes,
      List.find?_cons_of_neg (by simp [isUnlisted]), List.find?_append, Option.map_or]
  | .list _ items, h | .group _ items, h | .pattern _ items, h => by
    rw [nodes, List.forall_mem_cons] at h
    rw [ofItem, Except.error?_map, error?_ofItems items h.2, nodes,
      List.find?_cons_of_neg (by simp [isUnlisted])]

theorem error?_ofItems : (items : List Item) → (∀ node ∈ nodesAll items, node.WellFormed) →
    Except.error? (ofItems items) = ((nodesAll items).find? isUnlisted).map QueryListError.ofItem
  | [], _ => rfl
  | item :: items, h => by
    rw [nodesAll, List.forall_mem_append] at h
    rw [ofItems, Except.error?_map₂, error?_ofItem item h.1, error?_ofItems items h.2, nodesAll,
      List.find?_append, Option.map_or]

end

end QueryValue

/-! ## Entries -/

namespace QueryItem

variable {item : Item}

theorem exists_keyOf {name : Item} (h : name.isNameSort) : ∃ key, keyOf name = .ok key := by
  cases name with
  | word | quote => exact ⟨_, rfl⟩
  | _ => cases h

theorem error?_termOf (h : ∀ node ∈ item.nodes, node.WellFormed) :
    Except.error? (termOf item) =
      (item.operand.nodes.find? isUnlisted).map QueryListError.ofItem := by
  cases item with
  | compare pos op operand =>
    rw [nodes, List.forall_mem_cons] at h
    rw [termOf, Except.error?_map, QueryValue.error?_ofItem operand h.2, Item.operand]
  | list pos items =>
    rw [termOf, Except.error?_map, QueryValue.error?_ofItem _ h, Item.operand]
    exact nofun
  | _ =>
    rw [termOf, Except.error?_map, QueryValue.error?_ofItem _ h, Item.operand]
    all_goals exact nofun

/-- An item is refused for the first node without a form in what it has to say as a value. -/
theorem error?_ofItem (h : ∀ node ∈ item.nodes, node.WellFormed) :
    Except.error? (ofItem item) =
      (item.payload.nodes.find? isUnlisted).map QueryListError.ofItem := by
  have hentry (key : Option QueryKey) (x : Except QueryListError (Option QueryOp × QueryValue)) :=
    Except.error?_map (fun t => QueryItem.mk key t.1 t.2) x
  unfold ofItem
  split
  · rename_i pos name v
    rw [nodes, List.forall_mem_cons, List.forall_mem_append] at h
    obtain ⟨⟨hsort, -⟩, -, hv⟩ := h
    obtain ⟨key, hkey⟩ := exists_keyOf hsort
    rw [hkey, payload, ← error?_termOf hv]
    exact hentry (some key) _
  · rename_i hpair
    rw [payload, ← error?_termOf h]
    · exact hentry none _
    · exact hpair

end QueryItem

/-! ## Query lists -/

namespace QueryList

variable {items : List Item}

/-- Items are refused for the first such node of all of them. -/
theorem error?_ofItems (h : ∀ node ∈ nodesAll items, node.WellFormed) :
    Except.error? (ofItems items) =
      ((items.flatMap fun item => item.payload.nodes).find? isUnlisted).map
        QueryListError.ofItem := by
  rw [ofItems, Except.error?_mapM]
  induction items with
  | nil => rfl
  | cons item items ih =>
    rw [nodesAll, List.forall_mem_append] at h
    rw [List.findSome?_cons, QueryItem.error?_ofItem h.1, ih h.2, List.flatMap_cons,
      List.find?_append, Option.map_or]
    cases item.payload.nodes.find? isUnlisted <;> rfl

/-- **Queries without a query list.** A query has a query list just if no pair, operator or keyword
is left in any of its items besides its own key and operator. Any other query is refused for the
first one left, from left to right and from the outside in. -/
theorem ofItems_refuses {limit : Nat} {text : String}
    (hparse : Query.parse limit text = .ok items) :
    ((∃ list, ofItems items = .ok list) ↔
        ∀ item ∈ items, ∀ node ∈ item.payload.nodes, node.isUnlisted = false) ∧
      ∀ e, ofItems items = .error e ↔
        ∃ node, (items.flatMap fun item => item.payload.nodes).find? isUnlisted = some node ∧
          .unsupported node.termName = e := by
  obtain ⟨t, -, hread⟩ := Query.parse_ok hparse
  have herror := error?_ofItems hread.sequence.wellFormed
  constructor
  · rw [← Except.error?_eq_none_iff, herror, Option.map_eq_none_iff, List.find?_eq_none]
    simp only [List.mem_flatMap, forall_exists_index, and_imp, Bool.not_eq_true]
    exact ⟨fun h item hitem node hnode => h node item hitem hnode,
      fun h node item hitem hnode => h item hitem node hnode⟩
  · intro e
    rw [← Except.error?_eq_some_iff, herror, Option.map_eq_some_iff]
    rfl

/-- Operators have a form after a key and at the top. In a group a keyword has none, and it is
reported before the pair after it. -/
theorem ofItems_refuses_negation :
    let fine : List Item :=
      [.pair ⟨1, 1⟩ (.word ⟨1, 1⟩ "k") (.compare ⟨1, 3⟩ .gt (.group ⟨1, 4⟩
          [.list ⟨1, 5⟩ [.word ⟨1, 5⟩ "a", .quote ⟨1, 7⟩ "b"]])),
        .compare ⟨1, 12⟩ .neq (.group ⟨1, 13⟩ [.word ⟨1, 14⟩ "c"])]
    let negation : Item :=
      .not ⟨1, 10⟩ (.pair ⟨1, 14⟩ (.word ⟨1, 14⟩ "d") (.word ⟨1, 16⟩ "e"))
    let refused : List Item :=
      [.pair ⟨1, 1⟩ (.word ⟨1, 1⟩ "k") (.compare ⟨1, 3⟩ .gt (.word ⟨1, 4⟩ "a")),
        .compare ⟨1, 6⟩ .neq (.group ⟨1, 7⟩ [.word ⟨1, 8⟩ "c", negation])]
    (Query.parse 3 "k:>(a,\"b\") !(c)" = .ok fine ∧ ∃ list, ofItems fine = .ok list) ∧
      Query.parse 3 "k:>a !(c NOT d:e)" = .ok refused ∧
      ofItems refused = .error (.unsupported "not") := by
  intro fine negation refused
  have hfine : Query.parse 3 "k:>(a,\"b\") !(c)" = .ok fine := by cbv
  have hrefused : Query.parse 3 "k:>a !(c NOT d:e)" = .ok refused := by cbv
  refine ⟨⟨hfine, (ofItems_refuses hfine).1.2 ?_⟩, hrefused, ?_⟩
  · simp [fine, payload, operand, nodes, nodesAll, isUnlisted]
  · exact ((ofItems_refuses hrefused).2 _).2 ⟨negation, rfl, rfl⟩

end QueryList

end SearchQuery
