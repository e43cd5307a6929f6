import Mathlib.Data.List.Basic
import Mathlib.Tactic.Common
import SearchQuery.Proofs.Item.Reading
import SearchQuery.Proofs.Token.Lexing
import SearchQuery.Query

/-!
# Well-formed items

What holds at every node of the items that are read, one clause for each constructor.

* `nodesAll` lists the nodes of items.
* `WellFormed` says of one node which sorts of items stand right below it, and `IsRow` the same of
  a sequence.
* `decode_wellFormed`: all nodes of a decoded query are well-formed.
-/

namespace SearchQuery

namespace Item

mutual

/-- An item and all items inside it. -/
def nodes : Item → List Item
  | pin pos target => pin pos target :: target.nodes
  | pair pos key v => pair pos key v :: (key.nodes ++ v.nodes)
  | compare pos op operand => compare pos op operand :: operand.nodes
  | range pos start stop => range pos start stop :: (start.nodes ++ stop.nodes)
  | list pos items => list pos items :: nodesAll items
  | group pos items => group pos items :: nodesAll items
  | pattern pos pieces => pattern pos pieces :: nodesAll pieces
  | and pos left right => and pos left right :: (left.nodes ++ nodesAll right)
  | or pos left right => or pos left right :: (left.nodes ++ nodesAll right)
  | not pos operand => not pos operand :: operand.nodes
  | item => [item]

/-- Items and all items inside them. -/
def nodesAll : List Item → List Item
  | [] => []
  | item :: items => item.nodes ++ nodesAll items

end

/-! ## Sorts -/

/-- Whether items of this sort name fields. -/
def isNameSort : Item → Bool
  | word _ _ | quote _ _ => true
  | _ => false

/-- Whether items of this sort are the pieces of patterns. -/
def isPieceSort : Item → Bool
  | wildcard _ | anyChar _ => true
  | item => item.isNameSort

/-- Whether items of this sort are values that may start a range or a list. -/
def isPlainSort : Item → Bool
  | null _ | pin _ _ | pattern _ _ => true
  | item => item.isPieceSort

/-- Whether items of this sort are values. -/
def isValueSort : Item → Bool
  | group _ _ => true
  | item => item.isPlainSort

/-- Whether the item is the open side of a range. -/
def isOpenSide : Item → Bool
  | infinity _ => true
  | _ => false

/-- Whether the item takes all that follows it as its right side. -/
def isJunction : Item → Bool
  | and _ _ _ | or _ _ _ => true
  | _ => false

/-! ## Nodes -/

/-- A sequence of items: `AND` and `OR` only end it, and no side of a range is open without its
range. -/
structure IsRow (items : List Item) : Prop where
  closed : ∀ item ∈ items, item.isOpenSide = false
  junctionsLast : ∀ item ∈ items.dropLast, item.isJunction = false

/-- A node is made as reading makes it. -/
def WellFormed : Item → Prop
  | word _ text => Text.isBareWord text
  | value _ _ => False
  | pin _ target => target.isNameSort
  | pair _ key v => key.isNameSort ∧ v.isOpenSide = false ∧ v.isJunction = false
  | compare _ _ operand => operand.isValueSort
  | range _ start stop =>
    (start.isOpenSide ∨ start.isPlainSort) ∧ start.print.toList.getLast? ≠ some '.' ∧
      (stop.isOpenSide ∨ stop.isValueSort)
  | list _ items =>
    ∃ first rest, items = first :: rest ∧ first.isPlainSort ∧ ∀ item ∈ rest, item.isValueSort
  | group _ items => IsRow items
  | pattern _ pieces =>
    2 ≤ pieces.length ∧ (∀ piece ∈ pieces, piece.isPieceSort) ∧
      pieces.IsChain fun a b => a.isWord = false ∨ b.isWord = false
  | and _ left right | or _ left right =>
    left.isOpenSide = false ∧ left.isJunction = false ∧ right ≠ [] ∧ IsRow right
  | not _ operand => operand.isOpenSide = false ∧ operand.isJunction = false
  | null _ | infinity _ | wildcard _ | anyChar _ | quote _ _ => True

theorem forall_mem_nodesAll {p : Item → Prop} {items : List Item} :
    (∀ node ∈ nodesAll items, p node) ↔ ∀ item ∈ items, ∀ node ∈ item.nodes, p node := by
  induction items with
  | nil => simp [nodesAll]
  | cons item items ih => rw [nodesAll, List.forall_mem_append, List.forall_mem_cons, ih]

/-! ## The items that are read -/

theorem IsName.isNameSort {item : Item} (h : IsName item) : item.isNameSort := by
  cases h <;> rfl

theorem IsPiece.isPieceSort {item : Item} (h : IsPiece item) : item.isPieceSort := by
  cases h with
  | name h => cases h <;> rfl
  | _ => rfl

theorem IsPlain.isPlainSort {item : Item} (h : IsPlain item) : item.isPlainSort := by
  cases h with
  | piece h =>
    cases h with
    | name h => cases h <;> rfl
    | _ => rfl
  | _ => rfl

theorem isValueSort_of_isPlainSort {item : Item} (h : item.isPlainSort) : item.isValueSort := by
  cases item <;> first | rfl | exact h

theorem IsValue.isValueSort {Term : Item → Prop} {item : Item} (h : IsValue Term item) :
    item.isValueSort := by
  cases h with
  | group h => rfl
  | plain h => exact isValueSort_of_isPlainSort h.isPlainSort

/-- Atoms of a sequence are closed, and no atom is an `AND` or `OR`. -/
theorem IsTerm.isOpenSide_isJunction {item : Item} (h : IsTerm item) :
    item.isOpenSide = false ∧ item.isJunction = false := by
  cases h with
  | value h =>
    have := h.isValueSort
    cases item <;> first | exact ⟨rfl, rfl⟩ | cases this
  | _ => exact ⟨rfl, rfl⟩

theorem IsNegated.isOpenSide_isJunction {item : Item} (h : IsNegated IsTerm item) :
    item.isOpenSide = false ∧ item.isJunction = false := by
  cases h with
  | term h => exact h.isOpenSide_isJunction
  | not h => exact ⟨rfl, rfl⟩

theorem IsSequence.isRow {items : List Item} (h : IsSequence IsTerm items) : IsRow items := by
  induction h with
  | nil => exact ⟨by simp, by simp⟩
  | @cons item items h _ ih =>
    obtain ⟨hopen, hjunction⟩ := h.isOpenSide_isJunction
    refine ⟨List.forall_mem_cons.2 ⟨hopen, ih.closed⟩, fun i hi => ?_⟩
    cases items with
    | nil => cases hi
    | cons next items =>
      rcases List.mem_cons.1 hi with rfl | hi
      · exact hjunction
      · exact ih.junctionsLast i hi
  | and | or => exact ⟨by simp [isOpenSide], by simp⟩

theorem IsName.wellFormed {item : Item} (h : IsName item) :
    ∀ node ∈ item.nodes, node.WellFormed := by
  cases h with
  | word h => simpa [nodes, WellFormed] using h
  | quote => simp [nodes, WellFormed]

theorem IsPiece.wellFormed {item : Item} (h : IsPiece item) :
    ∀ node ∈ item.nodes, node.WellFormed := by
  cases h with
  | name h => exact h.wellFormed
  | _ => simp [nodes, WellFormed]

theorem IsPlain.wellFormed {item : Item} (h : IsPlain item) :
    ∀ node ∈ item.nodes, node.WellFormed := by
  cases h with
  | null => simp [nodes, WellFormed]
  | piece h => exact h.wellFormed
  | pattern hpieces hlength hwords =>
    rw [nodes, List.forall_mem_cons, forall_mem_nodesAll]
    exact ⟨⟨hlength, fun piece h => (hpieces piece h).isPieceSort, hwords⟩,
      fun piece h => (hpieces piece h).wellFormed⟩
  | pin h =>
    rw [nodes, List.forall_mem_cons]
    exact ⟨h.isNameSort, h.wellFormed⟩

theorem IsNegated.wellFormed {item : Item} (h : IsNegated IsTerm item)
    (hterm : ∀ i, .item i ∈ item.parts → ∀ node ∈ i.nodes, node.WellFormed) :
    ∀ node ∈ item.nodes, node.WellFormed := by
  induction h with
  | term h =>
    refine hterm _ ?_
    rw [h.isAtom]
    exact List.mem_singleton_self _
  | not h ih =>
    rw [nodes, List.forall_mem_cons]
    refine ⟨h.isOpenSide_isJunction, ih fun i hi => hterm i ?_⟩
    exact List.mem_cons_of_mem _ hi

/-- A sequence is well-formed at its nodes if the items between its keywords are. -/
theorem IsSequence.wellFormed_of_parts {items : List Item} (h : IsSequence IsTerm items)
    (hterm : ∀ i, .item i ∈ partsAll items → ∀ node ∈ i.nodes, node.WellFormed) :
    ∀ node ∈ nodesAll items, node.WellFormed := by
  induction h with
  | nil => simp [nodesAll]
  | cons h _ ih =>
    rw [nodesAll, List.forall_mem_append]
    exact ⟨h.wellFormed fun i hi => hterm i (List.mem_append_left _ hi),
      ih fun i hi => hterm i (List.mem_append_right _ hi)⟩
  | and h hs hne ih | or h hs hne ih =>
    rw [partsAll, partsAll, List.append_nil, parts] at hterm
    have hleft := h.wellFormed fun i hi => hterm i (List.mem_append_left _ hi)
    have hright := ih fun i hi => hterm i (List.mem_append_right _ (List.mem_cons_of_mem _ hi))
    obtain ⟨hopen, hjunction⟩ := h.isOpenSide_isJunction
    rw [nodesAll, nodesAll, List.append_nil, nodes, List.forall_mem_cons, List.forall_mem_append]
    exact ⟨⟨hopen, hjunction, hne, hs.isRow⟩, hleft, hright⟩

theorem IsTerm.wellFormed {item : Item} (h : IsTerm item) :
    ∀ node ∈ item.nodes, node.WellFormed := by
  refine IsTerm.induct (motive := fun item => ∀ node ∈ item.nodes, node.WellFormed)
    ?plain ?group ?pair ?compare ?range ?list h
  case plain => exact IsPlain.wellFormed
  case group =>
    intro pos items h ih
    rw [nodes, List.forall_mem_cons]
    exact ⟨h.isRow, h.wellFormed_of_parts ih⟩
  case pair =>
    intro pos key v hkey hv ih
    rw [nodes, List.forall_mem_cons, List.forall_mem_append]
    exact ⟨⟨hkey.isNameSort, hv.isOpenSide_isJunction⟩, hkey.wellFormed, ih⟩
  case compare =>
    intro pos op operand h ih
    rw [nodes, List.forall_mem_cons]
    exact ⟨h.isValueSort, ih⟩
  case range =>
    intro pos start stop hstart hstop ih
    rw [nodes, List.forall_mem_cons, List.forall_mem_append]
    refine ⟨⟨?_, ?_, ?_⟩, ?_, ?_⟩
    · cases hstart with
      | «open» => exact .inl rfl
      | value h => exact .inr h.plain.isPlainSort
    · cases hstart with
      | «open» => simp [print]
      | value h => exact h.undotted
    · cases hstop with
      | «open» => exact .inl rfl
      | value h => exact .inr h.isValueSort
    · cases hstart with
      | «open» => simp [nodes, WellFormed]
      | value h => exact h.plain.wellFormed
    · cases hstop with
      | «open» => simp [nodes, WellFormed]
      | value h => exact ih h
  case list =>
    intro pos first rest hfirst hrest ih
    rw [nodes, List.forall_mem_cons, forall_mem_nodesAll, List.forall_mem_cons]
    exact ⟨⟨first, rest, rfl, hfirst.isPlainSort, fun item h => (hrest item h).isValueSort⟩,
      hfirst.wellFormed, ih⟩

/-- A sequence of terms is well-formed at all its nodes. -/
theorem IsSequence.wellFormed {items : List Item} (h : IsSequence IsTerm items) :
    ∀ node ∈ nodesAll items, node.WellFormed :=
  h.wellFormed_of_parts fun i hi => (h.forall_parts (fun _ => IsTerm.isAtom) i hi).wellFormed

end Item

namespace Query

open Item

/-- **Well-formed queries.** All nodes of the items that are decoded are well-formed, and the items
are a row, whether or not the whole text was read. -/
theorem decode_wellFormed {limit : Nat} {text : String} {decoded : Decoded}
    (h : decode limit text = .ok decoded) :
    IsRow decoded.items ∧ ∀ node ∈ nodesAll decoded.items, node.WellFormed := by
  unfold decode at h
  split at h
  · cases h
  · rename_i tokenized htokens
    obtain ⟨items, hitems, rfl⟩ := Except.map_eq_ok.1 h
    have hread := ofTokens_ok ⟨tokenize_proper htokens, .inl rfl⟩ hitems
    exact ⟨hread.sequence.isRow, hread.sequence.wellFormed⟩

/-- Of a text that goes on with a stray parenthesis, the part before it is decoded. -/
theorem decode_wellFormed_stopped :
    let items : List Item :=
      [.pair ⟨1, 1⟩ (.word ⟨1, 1⟩ "a") (.compare ⟨1, 3⟩ .gt (.group ⟨1, 4⟩ [.list ⟨1, 5⟩
          [.word ⟨1, 5⟩ "b", .pattern ⟨1, 7⟩ [.word ⟨1, 7⟩ "c", .wildcard ⟨1, 8⟩]]])),
        .or ⟨1, 17⟩ (.not ⟨1, 11⟩ (.word ⟨1, 15⟩ "d"))
          [.range ⟨1, 20⟩ (.pin ⟨1, 20⟩ (.word ⟨1, 21⟩ "e")) (.infinity .start)]]
    decode 4 "a:>(b,c*) NOT d OR ^e..)f" = .ok ⟨items, ")f", ⟨1, 24⟩⟩ ∧
      IsRow items ∧ ∀ node ∈ nodesAll items, node.WellFormed := by
  intro items
  have hdecode : decode 4 "a:>(b,c*) NOT d OR ^e..)f" = .ok ⟨items, ")f", ⟨1, 24⟩⟩ := rfl
  exact ⟨hdecode, decode_wellFormed hdecode⟩

end Query

end SearchQuery
