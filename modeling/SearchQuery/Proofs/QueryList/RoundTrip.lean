import Mathlib
import SearchQuery.Proofs.Item.WellFormed
import SearchQuery.Proofs.Query.RoundTrip
import SearchQuery.Proofs.QueryList.Settling

/-!
# Query lists and back

A query that has a query list comes back from it. Words, quotes and keys are told apart by their
texts and by the mark of a quoted bare word, but the name that a pin refers to has no mark.

* `same_toItems_iff`: the items that come back are the same just if no pin refers to a quoted bare
  word.
-/

namespace SearchQuery

open Item

/-- A node comes back from a query list as it is: it is no pin to a quoted bare word, which comes
back as a pin to the word. -/
def Item.ComesBack : Item → Prop
  | pin _ (quote _ text) => Text.isBareWord text = false
  | _ => True

/-! ## Values -/

namespace QueryValue

theorem textItem_of_isBareWord {s : String} (h : Text.isBareWord s) :
    textItem s = .word .start s := by
  rw [textItem, if_pos h]

mutual

/-- A well-formed item comes back from its value just if its nodes do. -/
theorem unplaced_toItem_iff : (item : Item) → {v : QueryValue} → ofItem item = .ok v →
    (∀ node ∈ item.nodes, node.WellFormed) →
    (v.toItem.unplaced = item.unplaced ↔ ∀ node ∈ item.nodes, node.ComesBack)
  | .null _, _, h, _ | .infinity _, _, h, _ | .wildcard _, _, h, _ | .anyChar _, _, h, _ => by
    cases h
    simp [toItem, unplaced, nodes, ComesBack]
  | .word pos s, _, h, hform => by
    cases h
    have hbare : Text.isBareWord s := hform (.word pos s) (by simp [nodes])
    simp [toItem, textItem_of_isBareWord hbare, unplaced, nodes, ComesBack]
  | .quote pos s, _, h, _ => by
    cases h
    simp [toItem_ofQuote, unplaced, nodes, ComesBack]
  | .value pos v, _, _, hform => (hform (.value pos v) (by simp [nodes])).elim
  | .pin pos target, _, h, hform => by
    have hname : target.isNameSort := hform (.pin pos target) (by simp [nodes])
    cases target with
    | word place s =>
      cases h
      have hbare : Text.isBareWord s := hform (.word place s) (by simp [nodes])
      simp [toItem, textItem_of_isBareWord hbare, unplaced, nodes, ComesBack]
    | quote place s =>
      cases h
      by_cases hbare : Text.isBareWord s <;>
        simp [toItem, textItem, hbare, unplaced, nodes, ComesBack]
    | _ => cases hname
  | .range pos start stop, _, h, hform => by
    obtain ⟨v, hv, h⟩ := Except.bind_eq_ok.1 h
    obtain ⟨w, hw, ⟨⟩⟩ := Except.bind_eq_ok.1 h
    rw [nodes, List.forall_mem_cons, List.forall_mem_append] at hform ⊢
    simp [toItem, unplaced, ComesBack, unplaced_toItem_iff start hv hform.2.1,
      unplaced_toItem_iff stop hw hform.2.2]
  | .list pos items, _, h, hform | .group pos items, _, h, hform
  | .pattern pos items, _, h, hform => by
    obtain ⟨vs, hvs, ⟨⟩⟩ := Except.bind_eq_ok.1 h
    rw [nodes, List.forall_mem_cons] at hform ⊢
    simp [toItem, unplaced, ComesBack, unplacedAll_toItems_iff items hvs hform.2]
  | .pair _ _ _, _, h, _ | .compare _ _ _, _, h, _ | .and _ _ _, _, h, _ | .or _ _ _, _, h, _
  | .not _ _, _, h, _ => nomatch h

theorem unplacedAll_toItems_iff : (items : List Item) → {vs : List QueryValue} →
    ofItems items = .ok vs → (∀ node ∈ nodesAll items, node.WellFormed) →
    (unplacedAll (toItems vs) = unplacedAll items ↔ ∀ node ∈ nodesAll items, node.ComesBack)
  | [], _, h, _ => by
    cases h
    simp [toItems, nodesAll]
  | item :: items, _, h, hform => by
    obtain ⟨v, hv, h⟩ := Except.bind_eq_ok.1 h
    obtain ⟨vs, hvs, ⟨⟩⟩ := Except.bind_eq_ok.1 h
    rw [nodesAll, List.forall_mem_append] at hform ⊢
    simp [toItems, unplacedAll, unplaced_toItem_iff item hv hform.1,
      unplacedAll_toItems_iff items hvs hform.2]

end

end QueryValue

/-! ## Entries -/

namespace QueryItem

variable {item : Item}

/-- The operator and the value of an item stand for an item again. -/
theorem unplaced_term_iff {op : Option QueryOp} {v : QueryValue} (h : termOf item = .ok (op, v))
    (hform : ∀ node ∈ item.nodes, node.WellFormed) :
    ∃ back, term op v = .ok back ∧
      (back.unplaced = item.unplaced ↔ ∀ node ∈ item.nodes, node.ComesBack) := by
  unfold termOf at h
  split at h
  · rename_i pos inner operand
    obtain ⟨w, hw, ⟨⟩⟩ := Except.bind_eq_ok.1 h
    refine ⟨_, rfl, ?_⟩
    rw [nodes, List.forall_mem_cons] at hform ⊢
    simp [unplaced, ComesBack, QueryValue.unplaced_toItem_iff operand hw hform.2]
  · rename_i pos items
    obtain ⟨w, hw, ⟨⟩⟩ := Except.bind_eq_ok.1 h
    have hiff := QueryValue.unplaced_toItem_iff (.list pos items) hw hform
    obtain ⟨vs, -, ⟨⟩⟩ := Except.bind_eq_ok.1 hw
    exact ⟨_, rfl, hiff⟩
  · obtain ⟨w, hw, ⟨⟩⟩ := Except.bind_eq_ok.1 h
    exact ⟨_, rfl, QueryValue.unplaced_toItem_iff item hw hform⟩

/-- A name comes back from its key, with its quotes if it has any. -/
theorem keyItem_of_keyOf {name : Item} {key : QueryKey} (h : keyOf name = .ok key)
    (hsort : name.isNameSort) (hform : ∀ node ∈ name.nodes, node.WellFormed) :
    keyItem key = name.unplaced := by
  cases name with
  | word pos s =>
    cases h
    have hbare : Text.isBareWord s := hform (.word pos s) (by simp [nodes])
    simp [keyItem, QueryValue.textItem_of_isBareWord hbare, unplaced]
  | quote pos s =>
    cases h
    by_cases hbare : Text.isBareWord s <;> simp [keyItem, QueryValue.textItem, hbare, unplaced]
  | _ => cases hsort

theorem comesBack_of_isNameSort {name : Item} (h : name.isNameSort) :
    ∀ node ∈ name.nodes, node.ComesBack := by
  cases name with
  | word pos s | quote pos s => simp [nodes, ComesBack]
  | _ => cases h

/-- An entry stands for an item again, which is the same just if its nodes come back. -/
theorem unplaced_toItem_iff {entry : QueryItem} (h : ofItem item = .ok entry)
    (hform : ∀ node ∈ item.nodes, node.WellFormed) :
    ∃ back, entry.toItem = .ok back ∧
      (back.unplaced = item.unplaced ↔ ∀ node ∈ item.nodes, node.ComesBack) := by
  unfold ofItem at h
  split at h
  · rename_i pos name v
    obtain ⟨key, hkey, h⟩ := Except.bind_eq_ok.1 h
    obtain ⟨⟨op, w⟩, hw, ⟨⟩⟩ := Except.bind_eq_ok.1 h
    rw [nodes, List.forall_mem_cons, List.forall_mem_append] at hform ⊢
    obtain ⟨⟨hsort, -⟩, hname, hv⟩ := hform
    obtain ⟨back, hback, hiff⟩ := unplaced_term_iff hw hv
    refine ⟨_, toItem_of_key key hback, ?_⟩
    have hnames := comesBack_of_isNameSort hsort
    simp only [unplaced, unplaced_unplaced, keyItem_of_keyOf hkey hsort hname, pair.injEq, hiff,
      true_and]
    exact ⟨fun h => ⟨trivial, hnames, h⟩, fun h => h.2.2⟩
  · obtain ⟨⟨op, w⟩, hw, ⟨⟩⟩ := Except.bind_eq_ok.1 h
    obtain ⟨back, hback, hiff⟩ := unplaced_term_iff hw hform
    refine ⟨back, ?_, hiff⟩
    rw [toItem, hback]
    rfl

end QueryItem

/-! ## Whole queries -/

namespace QueryList

variable {items : List Item} {list : List QueryItem}

theorem unplacedAll_toItems_iff (h : ofItems items = .ok list)
    (hform : ∀ node ∈ nodesAll items, node.WellFormed) :
    ∃ back, toItems list = .ok back ∧
      (unplacedAll back = unplacedAll items ↔ ∀ node ∈ nodesAll items, node.ComesBack) := by
  unfold ofItems toItems at *
  induction items generalizing list with
  | nil =>
    cases h
    exact ⟨[], rfl, by simp [nodesAll]⟩
  | cons item items ih =>
    rw [List.mapM_cons] at h
    obtain ⟨entry, hentry, h⟩ := Except.bind_eq_ok.1 h
    obtain ⟨entries, hentries, ⟨⟩⟩ := Except.bind_eq_ok.1 h
    rw [nodesAll, List.forall_mem_append] at hform ⊢
    obtain ⟨back, hback, hiff⟩ := QueryItem.unplaced_toItem_iff hentry hform.1
    obtain ⟨others, hothers, hiff'⟩ := ih hentries hform.2
    refine ⟨back :: others, ?_, ?_⟩
    · rw [List.mapM_cons, hback, hothers]
      rfl
    · simp [unplacedAll, hiff, hiff']

/-- **Query lists and back.** A query that has a query list comes back from it. The items are the
same just if no pin refers to a quoted bare word. -/
theorem same_toItems_iff {limit : Nat} {text : String} (hparse : Query.parse limit text = .ok items)
    (hlist : ofItems items = .ok list) :
    ∃ back, toItems list = .ok back ∧
      (sameAll back items ↔ ∀ node ∈ nodesAll items, node.ComesBack) := by
  obtain ⟨t, -, hread⟩ := Query.parse_ok hparse
  obtain ⟨back, hback, hiff⟩ := unplacedAll_toItems_iff hlist hread.sequence.wellFormed
  exact ⟨back, hback, (sameAll_iff _ _).trans hiff⟩

/-- Quoted bare words keep their quotes as keys and in groups, and pins to words come back. -/
theorem same_toItems_iff_quoted :
    let items : List Item :=
      [.pair ⟨1, 1⟩ (.quote ⟨1, 1⟩ "k") (.compare ⟨1, 5⟩ .neq (.group ⟨1, 6⟩
          [.list ⟨1, 7⟩ [.quote ⟨1, 7⟩ "b", .quote ⟨1, 11⟩ "c d"]])),
        .range ⟨1, 18⟩ (.pin ⟨1, 18⟩ (.word ⟨1, 19⟩ "e")) (.infinity .start)]
    let list : List QueryItem :=
      [⟨some (.quote "k"), some (.compare .neq), .group [.list [.quote "b", .text "c d"]]⟩,
        ⟨none, none, .range (.pin "e") (.infinity true)⟩]
    Query.parse 3 "\"k\":!(\"b\",\"c d\") ^e.." = .ok items ∧ ofItems items = .ok list ∧
      (∀ node ∈ nodesAll items, node.ComesBack) ∧
      ∃ back, toItems list = .ok back ∧ sameAll back items := by
  intro items list
  have hparse : Query.parse 3 "\"k\":!(\"b\",\"c d\") ^e.." = .ok items := by cbv
  have hlist : ofItems items = .ok list := by cbv
  have hnodes : ∀ node ∈ nodesAll items, node.ComesBack := by
    simp [items, nodesAll, nodes, ComesBack]
  obtain ⟨back, hback, hsame⟩ := same_toItems_iff hparse hlist
  exact ⟨hparse, hlist, hnodes, back, hback, hsame.2 hnodes⟩

/-- A pin to a quoted bare word comes back as a pin to the word. -/
theorem toItems_forgets_quote :
    ∃ items list back, Query.parse Query.defaultLimit "a:^\"b\"" = .ok items ∧
      ofItems items = .ok list ∧ toItems list = .ok back ∧ sameAll back items = false :=
  ⟨[.pair ⟨1, 1⟩ (.word ⟨1, 1⟩ "a") (.pin ⟨1, 3⟩ (.quote ⟨1, 4⟩ "b"))],
    [⟨some (.text "a"), none, .pin "b"⟩],
    [.pair .start (.word .start "a") (.pin .start (.word .start "b"))],
    by cbv, by cbv, by cbv, by cbv⟩

end QueryList

end SearchQuery
