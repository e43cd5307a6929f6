import Mathlib.Data.List.Basic
import Mathlib.Tactic.Common
import SearchQuery.Proofs.Item.Nesting
import SearchQuery.Proofs.Item.WellFormed
import SearchQuery.Proofs.QueryList.Text

/-!
# Query lists of queries

The query list of a query that was read from text has no numbers, and its JSON nests no deeper than
four times as deep as the query.

* `ofItems_isNumber`: no value of an entry is a number.
* `nesting_toJson_le`: how deep the JSON of a query list nests.
-/

namespace SearchQuery

open Item

/-! ## Numbers -/

namespace QueryValue

mutual

/-- Numbers stand for typed literals, and no literal that is read has a type. -/
theorem isNumber_of_ofItem : (item : Item) → {v : QueryValue} → ofItem item = .ok v →
    (∀ node ∈ item.nodes, node.WellFormed) → ∀ w ∈ v.nodes, w.isNumber = false
  | .null _, _, h, _ | .infinity _, _, h, _ | .wildcard _, _, h, _ | .anyChar _, _, h, _
  | .word _ _, _, h, _ => by
    cases h
    simp [nodes, isNumber]
  | .quote pos s, _, h, _ => by
    cases h
    by_cases hbare : Text.isBareWord s <;> simp [ofQuote, hbare, nodes, isNumber]
  | .value pos v, _, _, hform => (hform (.value pos v) (by simp [Item.nodes])).elim
  | .pin pos target, _, h, _ => by
    rw [ofItem] at h
    split at h
    · cases h
      simp [nodes, isNumber]
    · cases h
  | .range pos start stop, _, h, hform => by
    obtain ⟨v, hv, h⟩ := Except.bind_eq_ok.1 h
    obtain ⟨w, hw, ⟨⟩⟩ := Except.bind_eq_ok.1 h
    rw [Item.nodes, List.forall_mem_cons, List.forall_mem_append] at hform
    rw [nodes, List.forall_mem_cons, List.forall_mem_append]
    exact ⟨rfl, isNumber_of_ofItem start hv hform.2.1, isNumber_of_ofItem stop hw hform.2.2⟩
  | .list pos items, _, h, hform | .group pos items, _, h, hform
  | .pattern pos items, _, h, hform => by
    obtain ⟨vs, hvs, ⟨⟩⟩ := Except.bind_eq_ok.1 h
    rw [Item.nodes, List.forall_mem_cons] at hform
    rw [nodes, List.forall_mem_cons]
    exact ⟨rfl, isNumber_of_ofItems items hvs hform.2⟩
  | .pair _ _ _, _, h, _ | .compare _ _ _, _, h, _ | .and _ _ _, _, h, _ | .or _ _ _, _, h, _
  | .not _ _, _, h, _ => nomatch h

theorem isNumber_of_ofItems : (items : List Item) → {vs : List QueryValue} →
    ofItems items = .ok vs → (∀ node ∈ Item.nodesAll items, node.WellFormed) →
    ∀ w ∈ nodesAll vs, w.isNumber = false
  | [], _, h, _ => by
    cases h
    simp [nodesAll]
  | item :: items, _, h, hform => by
    obtain ⟨v, hv, h⟩ := Except.bind_eq_ok.1 h
    obtain ⟨vs, hvs, ⟨⟩⟩ := Except.bind_eq_ok.1 h
    rw [Item.nodesAll, List.forall_mem_append] at hform
    rw [nodesAll, List.forall_mem_append]
    exact ⟨isNumber_of_ofItem item hv hform.1, isNumber_of_ofItems items hvs hform.2⟩

end

end QueryValue

/-! ## Nesting -/

/-- How deep the JSON of an item of this sort nests at most, if there are no groups inside it. -/
def Item.markerDepth : Item → Nat
  | group _ _ | pattern _ _ => 3
  | list _ _ => 4
  | range _ _ _ => 5
  | _ => 1

theorem Item.markerDepth_le (item : Item) : item.markerDepth ≤ 5 := by
  cases item <;> simp [markerDepth]

theorem Item.markerDepth_of_isPieceSort {item : Item} (h : item.isPieceSort) :
    item.markerDepth ≤ 1 := by
  cases item with
  | word | quote | wildcard | anyChar => exact Nat.le_refl _
  | _ => cases h

theorem Item.markerDepth_of_isValueSort {item : Item} (h : item.isOpenSide ∨ item.isValueSort) :
    item.markerDepth ≤ 3 := by
  cases item with
  | range | list => rcases h with h | h <;> cases h
  | _ => simp [markerDepth]

namespace QueryValue

theorem nesting_marker (name : String) (json : Json) :
    (Json.marker name json).nesting = json.nesting + 1 := by
  simp [Json.marker, Json.nesting, Json.nestingMembers]

theorem nesting_marker_array (name : String) (elements : List Json) :
    (Json.marker name (.array elements)).nesting = Json.nestingAll elements + 2 := by
  rw [nesting_marker, Json.nesting]

mutual

/-- A group takes an object and an array, and a range inside it another of each. -/
theorem nesting_toJson_le : (item : Item) → {v : QueryValue} → ofItem item = .ok v →
    (∀ node ∈ item.nodes, node.WellFormed) →
    v.toJson.nesting ≤ 4 * item.nesting 0 + item.markerDepth
  | .null _, _, h, _ | .infinity _, _, h, _ | .wildcard _, _, h, _ | .anyChar _, _, h, _
  | .word _ _, _, h, _ => by
    cases h
    simp [toJson, nesting_marker, Json.nesting, markerDepth]
  | .quote pos s, _, h, _ => by
    cases h
    by_cases hbare : Text.isBareWord s <;>
      simp [ofQuote, hbare, toJson, nesting_marker, Json.nesting, markerDepth]
  | .value pos v, _, _, hform => (hform (.value pos v) (by simp [Item.nodes])).elim
  | .pin pos target, _, h, _ => by
    rw [ofItem] at h
    split at h
    · cases h
      simp [toJson, nesting_marker, Json.nesting, markerDepth]
    · cases h
  | .range pos start stop, _, h, hform => by
    obtain ⟨v, hv, h⟩ := Except.bind_eq_ok.1 h
    obtain ⟨w, hw, ⟨⟩⟩ := Except.bind_eq_ok.1 h
    rw [Item.nodes, List.forall_mem_cons, List.forall_mem_append] at hform
    obtain ⟨⟨hstart, -, hstop⟩, hform, hform'⟩ := hform
    have hleft := nesting_toJson_le start hv hform
    have hright := nesting_toJson_le stop hw hform'
    have hdepth := markerDepth_of_isValueSort (hstart.imp_right isValueSort_of_isPlainSort)
    have hdepth' := markerDepth_of_isValueSort hstop
    simp only [toJson, nesting_marker_array, Json.nestingAll, Item.nesting, markerDepth]
    omega
  | .list pos items, _, h, hform => by
    obtain ⟨vs, hvs, ⟨⟩⟩ := Except.bind_eq_ok.1 h
    rw [Item.nodes, List.forall_mem_cons] at hform
    obtain ⟨⟨first, rest, rfl, hfirst, hrest⟩, hform⟩ := hform
    have hdepth : ∀ item ∈ first :: rest, item.markerDepth ≤ 3 := by
      rw [List.forall_mem_cons]
      exact ⟨markerDepth_of_isValueSort (.inr (isValueSort_of_isPlainSort hfirst)),
        fun item hitem => markerDepth_of_isValueSort (.inr (hrest item hitem))⟩
    have hle := nestingAll_toJsonAll_le (first :: rest) hvs hform hdepth
    simp only [toJson, Json.nesting, Item.nesting, markerDepth]
    omega
  | .group pos items, _, h, hform => by
    obtain ⟨vs, hvs, ⟨⟩⟩ := Except.bind_eq_ok.1 h
    rw [Item.nodes, List.forall_mem_cons] at hform
    have hle := nestingAll_toJsonAll_le items hvs hform.2 fun item _ => item.markerDepth_le
    simp only [toJson, nesting_marker_array, Item.nesting, markerDepth]
    omega
  | .pattern pos items, _, h, hform => by
    obtain ⟨vs, hvs, ⟨⟩⟩ := Except.bind_eq_ok.1 h
    rw [Item.nodes, List.forall_mem_cons] at hform
    obtain ⟨⟨-, hpieces, -⟩, hform⟩ := hform
    have hle := nestingAll_toJsonAll_le items hvs hform fun item hitem =>
      markerDepth_of_isPieceSort (hpieces item hitem)
    simp only [toJson, nesting_marker_array, Item.nesting, markerDepth]
    omega
  | .pair _ _ _, _, h, _ | .compare _ _ _, _, h, _ | .and _ _ _, _, h, _ | .or _ _ _, _, h, _
  | .not _ _, _, h, _ => nomatch h

theorem nestingAll_toJsonAll_le : (items : List Item) → {vs : List QueryValue} →
    ofItems items = .ok vs → (∀ node ∈ Item.nodesAll items, node.WellFormed) → {depth : Nat} →
    (∀ item ∈ items, item.markerDepth ≤ depth) →
    Json.nestingAll (toJsonAll vs) ≤ 4 * Item.nestingAll 0 items + depth
  | [], _, h, _, _, _ => by
    cases h
    exact Nat.zero_le _
  | item :: items, _, h, hform, depth, hdepth => by
    obtain ⟨v, hv, h⟩ := Except.bind_eq_ok.1 h
    obtain ⟨vs, hvs, ⟨⟩⟩ := Except.bind_eq_ok.1 h
    rw [Item.nodesAll, List.forall_mem_append] at hform
    rw [List.forall_mem_cons] at hdepth
    have hle := nesting_toJson_le item hv hform.1
    have hle' := nestingAll_toJsonAll_le items hvs hform.2 hdepth.2
    simp only [toJsonAll, Json.nestingAll, Item.nestingAll]
    omega

end

end QueryValue

/-! ## Entries -/

namespace QueryItem

variable {item : Item} {entry : QueryItem}

/-- The value of an entry is that of an item inside the one it stands for. -/
theorem exists_ofItem (h : ofItem item = .ok entry) :
    ∃ inner, QueryValue.ofItem inner = .ok entry.value ∧
      (∀ node ∈ inner.nodes, node ∈ item.nodes) ∧ inner.nesting 0 ≤ item.nesting 0 := by
  have hterm {item : Item} {op : Option QueryOp} {v : QueryValue} (h : termOf item = .ok (op, v)) :
      ∃ inner, QueryValue.ofItem inner = .ok v ∧ (∀ node ∈ inner.nodes, node ∈ item.nodes) ∧
        inner.nesting 0 ≤ item.nesting 0 := by
    unfold termOf at h
    split at h
    · rename_i pos inner operand
      obtain ⟨w, hw, ⟨⟩⟩ := Except.bind_eq_ok.1 h
      exact ⟨operand, hw, fun node hnode => List.mem_cons_of_mem _ hnode, Nat.le_refl _⟩
    · obtain ⟨w, hw, ⟨⟩⟩ := Except.bind_eq_ok.1 h
      exact ⟨_, hw, fun _ h => h, Nat.le_refl _⟩
    · obtain ⟨w, hw, ⟨⟩⟩ := Except.bind_eq_ok.1 h
      exact ⟨_, hw, fun _ h => h, Nat.le_refl _⟩
  unfold ofItem at h
  split at h
  · rename_i pos name v
    obtain ⟨key, -, h⟩ := Except.bind_eq_ok.1 h
    obtain ⟨⟨op, w⟩, hw, ⟨⟩⟩ := Except.bind_eq_ok.1 h
    obtain ⟨inner, hinner, hnodes, hle⟩ := hterm hw
    refine ⟨inner, hinner, fun node hnode => ?_, ?_⟩
    · rw [nodes]
      exact List.mem_cons_of_mem _ (List.mem_append_right _ (hnodes node hnode))
    · have hpair : v.nesting 0 ≤ (Item.pair pos name v).nesting 0 := by
        cases v <;> simp [nesting]
      exact Nat.le_trans hle hpair
  · obtain ⟨⟨op, w⟩, hw, ⟨⟩⟩ := Except.bind_eq_ok.1 h
    exact hterm hw

theorem isNumber_of_ofItem (h : ofItem item = .ok entry)
    (hform : ∀ node ∈ item.nodes, node.WellFormed) :
    ∀ w ∈ entry.value.nodes, w.isNumber = false := by
  obtain ⟨inner, hinner, hnodes, -⟩ := exists_ofItem h
  exact QueryValue.isNumber_of_ofItem inner hinner fun node hnode => hform node (hnodes node hnode)

/-- An entry is an object around a value. -/
theorem nesting_toJson_le (h : ofItem item = .ok entry)
    (hform : ∀ node ∈ item.nodes, node.WellFormed) :
    entry.toJson.nesting ≤ 4 * item.nesting 0 + 6 := by
  obtain ⟨inner, hinner, hnodes, hle⟩ := exists_ofItem h
  have hvalue := QueryValue.nesting_toJson_le inner hinner fun node hnode =>
    hform node (hnodes node hnode)
  have hdepth := inner.markerDepth_le
  have hkey (key : QueryKey) : key.toJson.nesting ≤ 1 := by
    cases key <;> simp [QueryKey.toJson, QueryValue.nesting_marker, Json.nesting]
  obtain ⟨key, op, v⟩ := entry
  cases key with
  | none => cases op <;> simp [toJson, Json.nesting, Json.nestingMembers] at hvalue ⊢ <;> omega
  | some key =>
    have hkey := hkey key
    cases op <;> simp [toJson, Json.nesting, Json.nestingMembers] at hvalue ⊢ <;> omega

end QueryItem

/-! ## Query lists -/

namespace QueryList

variable {items : List Item} {list : List QueryItem}

theorem ofItems_isNumber (h : ofItems items = .ok list)
    (hform : ∀ node ∈ nodesAll items, node.WellFormed) :
    ∀ entry ∈ list, ∀ w ∈ entry.value.nodes, w.isNumber = false := by
  intro entry hentry
  obtain ⟨item, hitem, hread⟩ := (Except.mem_of_mapM_eq_ok h).2 entry hentry
  exact QueryItem.isNumber_of_ofItem hread (forall_mem_nodesAll.1 hform item hitem)

/-- The JSON of a query list nests no deeper than four times as deep as the items. -/
theorem nesting_toJson_le (h : ofItems items = .ok list)
    (hform : ∀ node ∈ nodesAll items, node.WellFormed) :
    (toJson list).nesting ≤ 4 * nestingAll 0 items + 7 := by
  have hentries : ∀ json ∈ list.map QueryItem.toJson,
      json.nesting ≤ 4 * nestingAll 0 items + 6 := by
    intro json hjson
    obtain ⟨entry, hentry, rfl⟩ := List.mem_map.1 hjson
    obtain ⟨item, hitem, hread⟩ := (Except.mem_of_mapM_eq_ok h).2 entry hentry
    have hle := QueryItem.nesting_toJson_le hread (forall_mem_nodesAll.1 hform item hitem)
    have hitem' : item.nesting 0 ≤ nestingAll 0 items := nesting_le_nestingAll hitem
    omega
  rw [toJson, Json.nesting]
  exact Nat.succ_le_succ (Json.nestingAll_le hentries)

end QueryList

end SearchQuery
