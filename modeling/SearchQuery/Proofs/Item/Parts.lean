import Mathlib.Data.List.Basic
import Mathlib.Tactic.Common
import SearchQuery.Item.Part
import SearchQuery.Proofs.Except
import SearchQuery.Proofs.Item.Grammar

/-!
# Items and their parts

`Item.partsAll` takes items apart into the parts that `Part.combine` nests.

* `partsAll_combineAfter`: the result has the parts that were combined.
* `combine_ok`: parts that combine are the parts of the result, which is a sequence.
* `combine_partsAll`: the parts of a sequence combine to that sequence.
-/

namespace SearchQuery

namespace Item

mutual

/-- The parts that an item is combined of. -/
def parts : Item → List Part
  | and pos left right => left.parts ++ .and pos :: partsAll right
  | or pos left right => left.parts ++ .or pos :: partsAll right
  | not pos operand => .not pos :: operand.parts
  | item => [.item item]

/-- The parts that items are combined of. -/
def partsAll : List Item → List Part
  | [] => []
  | item :: items => item.parts ++ partsAll items

end

/-- The item is one part on its own. -/
def IsAtom (item : Item) : Prop := item.parts = [.item item]

theorem IsPiece.isAtom {item : Item} (h : IsPiece item) : IsAtom item := by
  cases h with
  | name h => cases h <;> rfl
  | _ => rfl

theorem IsPlain.isAtom {item : Item} (h : IsPlain item) : IsAtom item := by
  cases h with
  | piece h => exact h.isAtom
  | _ => rfl

theorem IsTerm.isAtom {item : Item} (h : IsTerm item) : IsAtom item := by
  cases h with
  | value h =>
    cases h with
    | plain h => exact h.isAtom
    | group h => rfl
  | _ => rfl

theorem parts_negate (nots : List Position) (item : Item) :
    (Part.negate nots item).parts = nots.reverse.map Part.not ++ item.parts := by
  induction nots generalizing item with
  | nil => rfl
  | cons pos nots ih =>
    change (Part.negate nots (.not pos item)).parts = _
    simp [ih, parts]

theorem isNegated_negate {Term : Item → Prop} (nots : List Position) {item : Item}
    (h : IsNegated Term item) : IsNegated Term (Part.negate nots item) := by
  induction nots generalizing item with
  | nil => exact h
  | cons pos nots ih => exact ih (.not h)

theorem IsNegated.exists_negate {Term : Item → Prop} {item : Item} (h : IsNegated Term item) :
    ∃ nots inner, Term inner ∧ item = Part.negate nots inner := by
  induction h with
  | term h => exact ⟨[], _, h, rfl⟩
  | @not pos operand _ ih =>
    obtain ⟨nots, inner, hinner, rfl⟩ := ih
    exact ⟨nots ++ [pos], inner, hinner, by simp [Part.negate]⟩

theorem parts_ne_nil (item : Item) : item.parts ≠ [] := by
  cases item <;> simp [parts]

theorem partsAll_ne_nil {items : List Item} (h : items ≠ []) : partsAll items ≠ [] := by
  obtain ⟨item, items, rfl⟩ := List.exists_cons_of_ne_nil h
  simp [partsAll, parts_ne_nil]

theorem IsNegated.forall_parts {Term : Item → Prop} (hatom : ∀ item, Term item → IsAtom item)
    {item : Item} (h : IsNegated Term item) : ∀ i, .item i ∈ item.parts → Term i := by
  induction h with
  | term h =>
    rw [hatom _ h]
    simpa using h
  | not _ ih => simpa [parts] using ih

/-- The items between the keywords of a sequence are of its class. -/
theorem IsSequence.forall_parts {Term : Item → Prop} (hatom : ∀ item, Term item → IsAtom item)
    {items : List Item} (h : IsSequence Term items) : ∀ i, .item i ∈ partsAll items → Term i := by
  induction h with
  | nil => simp [partsAll]
  | cons h _ ih =>
    intro i hi
    rcases List.mem_append.1 hi with hi | hi
    · exact h.forall_parts hatom i hi
    · exact ih i hi
  | and h _ _ ih | or h _ _ ih =>
    intro i hi
    rw [partsAll, partsAll, List.append_nil, parts, List.mem_append, List.mem_cons] at hi
    rcases hi with hi | hi | hi
    · exact h.forall_parts hatom i hi
    · cases hi
    · exact ih i hi

end Item

namespace Part

open Item

/-- The parts that a part stands for: an item may be combined of parts already. -/
def opened : Part → List Part
  | item i => i.parts
  | part => [part]

theorem flatMap_opened {parts : List Part} (h : ∀ i, .item i ∈ parts → i.IsAtom) :
    parts.flatMap opened = parts := by
  have hpart : ∀ part ∈ parts, opened part = [part] := by
    intro part hpart
    cases part with
    | item i => exact h i hpart
    | _ => rfl
  rw [List.flatMap_congr hpart, List.flatMap_singleton']

theorem flatMap_opened_ne_nil {parts : List Part} (h : parts ≠ []) : parts.flatMap opened ≠ [] := by
  obtain ⟨part, parts, rfl⟩ := List.exists_cons_of_ne_nil h
  cases part <;> simp [opened, parts_ne_nil]

/-- Nothing is lost, added or moved: the result has the parts that were combined. -/
theorem partsAll_combineAfter {nots : List Position} {parts : List Part} {items : List Item}
    (h : combineAfter nots parts = .ok items) :
    partsAll items = nots.reverse.map .not ++ parts.flatMap opened := by
  fun_induction combineAfter nots parts generalizing items with
  | case1 =>
    cases h
    rfl
  | case3 nots pos rest ih => simp [ih h, opened]
  | case6 nots i =>
    cases h
    simp [partsAll, parts_negate, opened]
  | case9 nots i pos rest hrest ih | case10 nots i pos rest hrest ih =>
    obtain ⟨right, hright, ⟨⟩⟩ := Except.bind_eq_ok.1 h
    simp [partsAll, Item.parts, parts_negate, opened, ih hright]
  | case11 nots i rest _ _ _ _ _ ih =>
    obtain ⟨others, hothers, ⟨⟩⟩ := Except.bind_eq_ok.1 h
    simp [partsAll, parts_negate, opened, ih hothers]
  | _ => cases h

/-- Parts that combine are the parts of the result, which is a sequence. -/
theorem combineAfter_ok {Term : Item → Prop} (hatom : ∀ item, Term item → IsAtom item)
    {nots : List Position} {parts : List Part} {items : List Item}
    (h : combineAfter nots parts = .ok items) (hterm : ∀ i, .item i ∈ parts → Term i) :
    partsAll items = nots.reverse.map .not ++ parts ∧ IsSequence Term items := by
  have hparts := partsAll_combineAfter h
  rw [flatMap_opened fun i hi => hatom i (hterm i hi)] at hparts
  refine ⟨hparts, ?_⟩
  clear hparts
  have hnegated (nots : List Position) {i : Item} (hi : Term i) :
      IsNegated Term (negate nots i) := isNegated_negate nots (.term hi)
  have hright {rest : List Part} {right : List Item} (hrest : rest ≠ [])
      (h : combineAfter [] rest = .ok right) : right ≠ [] := by
    rintro rfl
    exact flatMap_opened_ne_nil hrest (partsAll_combineAfter h).symm
  fun_induction combineAfter nots parts generalizing items with
  | case1 =>
    cases h
    exact .nil
  | case3 nots pos rest ih => exact ih h fun i hi => hterm i (List.mem_cons_of_mem _ hi)
  | case6 nots i =>
    cases h
    exact .cons (hnegated nots (hterm i (by simp))) .nil
  | case9 nots i pos rest hrest ih =>
    obtain ⟨right, hcombine, ⟨⟩⟩ := Except.bind_eq_ok.1 h
    exact .and (hnegated nots (hterm i (by simp)))
      (ih hcombine fun j hj => hterm j (by simp [hj])) (hright hrest hcombine)
  | case10 nots i pos rest hrest ih =>
    obtain ⟨right, hcombine, ⟨⟩⟩ := Except.bind_eq_ok.1 h
    exact .or (hnegated nots (hterm i (by simp)))
      (ih hcombine fun j hj => hterm j (by simp [hj])) (hright hrest hcombine)
  | case11 nots i rest _ _ _ _ _ ih =>
    obtain ⟨others, hothers, ⟨⟩⟩ := Except.bind_eq_ok.1 h
    exact .cons (hnegated nots (hterm i (by simp)))
      (ih hothers fun j hj => hterm j (by simp [hj]))
  | _ => cases h

theorem combine_ok {Term : Item → Prop} (hatom : ∀ item, Term item → IsAtom item)
    {parts : List Part} {items : List Item} (h : combine parts = .ok items)
    (hterm : ∀ i, .item i ∈ parts → Term i) : partsAll items = parts ∧ IsSequence Term items :=
  combineAfter_ok hatom h hterm

theorem combineAfter_not (nots others : List Position) (rest : List Part) :
    combineAfter nots (others.reverse.map .not ++ rest) = combineAfter (others ++ nots) rest := by
  induction others generalizing nots rest with
  | nil => rfl
  | cons pos others ih =>
    rw [List.reverse_cons, List.map_append, List.append_assoc, ih]
    rfl

/-- An item that neither `AND` nor `OR` follows comes before all that follows. -/
theorem combineAfter_item (nots : List Position) (i : Item) {rest : List Part}
    (hand : ∀ pos tail, rest ≠ .and pos :: tail) (hor : ∀ pos tail, rest ≠ .or pos :: tail) :
    combineAfter nots (.item i :: rest) = (combine rest).map (negate nots i :: ·) := by
  rw [combine]
  cases rest with
  | nil => rfl
  | cons part rest =>
    cases part with
    | and pos => exact absurd rfl (hand pos rest)
    | or pos => exact absurd rfl (hor pos rest)
    | item j =>
      rw [combineAfter]
      · cases combineAfter [] (.item j :: rest) <;> rfl
      all_goals simp
    | not pos =>
      simp only [combineAfter]
      cases combineAfter [pos] rest <;> rfl

/-- The parts of a sequence combine to that sequence. -/
theorem combine_partsAll {items : List Item} (h : IsSequence IsAtom items) :
    combine (partsAll items) = .ok items := by
  have hnegated {left : Item} (h : IsNegated IsAtom left) (rest : List Part) :
      ∃ nots i, left = negate nots i ∧
        combine (left.parts ++ rest) = combineAfter nots (.item i :: rest) := by
    obtain ⟨nots, i, hi, rfl⟩ := h.exists_negate
    refine ⟨nots, i, rfl, ?_⟩
    rw [parts_negate, hi, combine, List.append_assoc, combineAfter_not, List.append_nil,
      List.singleton_append]
  induction h with
  | nil => rfl
  | cons h _ ih =>
    obtain ⟨nots, i, rfl, hcombine⟩ := hnegated h _
    rw [partsAll, hcombine, combineAfter_item, ih]
    · rfl
    · rintro pos tail heq
      rw [heq] at ih
      cases ih
    · rintro pos tail heq
      rw [heq] at ih
      cases ih
  | and h _ hne ih =>
    obtain ⟨nots, i, rfl, hcombine⟩ := hnegated h _
    rw [partsAll, partsAll, List.append_nil, Item.parts, hcombine, combineAfter]
    · rw [combine] at ih
      rw [ih]
      rfl
    · exact partsAll_ne_nil hne
  | or h _ hne ih =>
    obtain ⟨nots, i, rfl, hcombine⟩ := hnegated h _
    rw [partsAll, partsAll, List.append_nil, Item.parts, hcombine, combineAfter]
    · rw [combine] at ih
      rw [ih]
      rfl
    · exact partsAll_ne_nil hne

end Part

end SearchQuery
