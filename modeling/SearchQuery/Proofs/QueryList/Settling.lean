import Mathlib.Data.List.Basic
import Mathlib.Tactic.Common
import SearchQuery.Proofs.Except
import SearchQuery.QueryList.Basic

/-!
# Query lists that settle

One item may have several entries: the flag of a marker counts for nothing, a text that is no bare
word needs no mark, and a list needs no operator. `settled` is the entry that comes back from the
item.

* `QueryValue.ofItem_toItem`, `QueryValue.toItem_settled`: the value that comes back from an item
  stands for the same item.
* `QueryList.toItems_settles`: what a query list stands for has a query list, which stands for the
  same items.
-/

namespace SearchQuery

/-! ## Values -/

namespace QueryValue

mutual

/-- The value that comes back from the item that a value stands for. -/
def settled : QueryValue → QueryValue
  | list values => list (settledAll values)
  | pattern pieces => pattern (settledAll pieces)
  | wildcard _ => wildcard true
  | anyChar _ => anyChar true
  | infinity _ => infinity true
  | range start stop => range start.settled stop.settled
  | quote s => ofQuote s
  | group values => group (settledAll values)
  | v => v

/-- The values that come back from the items that values stand for. -/
def settledAll : List QueryValue → List QueryValue
  | [] => []
  | v :: values => v.settled :: settledAll values

end

theorem ofItem_textItem (s : String) : ofItem (textItem s) = .ok (text s) := by
  by_cases h : Text.isBareWord s
  · rw [textItem, if_pos h, ofItem]
  · rw [textItem, if_neg h, ofItem, ofQuote, if_neg h]

theorem fieldName?_textItem (s : String) : (textItem s).fieldName? = some s := by
  by_cases h : Text.isBareWord s
  · rw [textItem, if_pos h, Item.fieldName?]
  · rw [textItem, if_neg h, Item.fieldName?]

mutual

/-- The item of a value has a value. -/
theorem ofItem_toItem : (v : QueryValue) → ofItem v.toItem = .ok v.settled
  | null | bool _ | integer _ | float _ | wildcard _ | anyChar _ | infinity _ | quote _ => rfl
  | text s => ofItem_textItem s
  | pin field => by
    rw [toItem, ofItem, fieldName?_textItem]
    rfl
  | list values | pattern values | group values => by
    rw [toItem, ofItem, ofItems_toItems values, settled]
    rfl
  | range start stop => by
    rw [toItem, ofItem, ofItem_toItem start, ofItem_toItem stop, settled]
    rfl

theorem ofItems_toItems : (values : List QueryValue) →
    ofItems (toItems values) = .ok (settledAll values)
  | [] => rfl
  | v :: values => by
    rw [toItems, ofItems, ofItem_toItem v, ofItems_toItems values, settledAll]
    rfl

end

/-- A quote comes back as a quote: marked if its text is a bare word, and by its text if not. -/
theorem toItem_ofQuote (s : String) : (ofQuote s).toItem = .quote .start s := by
  by_cases h : Text.isBareWord s
  · rw [ofQuote, if_pos h, toItem]
  · rw [ofQuote, if_neg h, toItem, textItem, if_neg h]

mutual

/-- The value that comes back stands for the item that it comes from. -/
theorem toItem_settled : (v : QueryValue) → v.settled.toItem = v.toItem
  | null | bool _ | integer _ | float _ | text _ | wildcard _ | anyChar _ | infinity _
  | pin _ => rfl
  | quote s => toItem_ofQuote s
  | list values | pattern values | group values => by
    rw [settled, toItem, toItem, toItems_settledAll values]
  | range start stop => by
    rw [settled, toItem, toItem, toItem_settled start, toItem_settled stop]

theorem toItems_settledAll : (values : List QueryValue) →
    toItems (settledAll values) = toItems values
  | [] => rfl
  | v :: values => by
    rw [settledAll, toItems, toItems, toItem_settled v, toItems_settledAll values]

end

end QueryValue

/-! ## Entries -/

namespace QueryItem

/-- The key that comes back from a pair: a mark stays where the text is a bare word. -/
def settledKey : QueryKey → QueryKey
  | .text s => .text s
  | .quote s => if Text.isBareWord s then .quote s else .text s

/-- The operator that comes back: lists have one although they need none. -/
def settledOp : Option QueryOp → QueryValue → Option QueryOp
  | none, .list _ => some .member
  | op, _ => op

/-- The entry that comes back from the item that an entry stands for. -/
def settled (entry : QueryItem) : QueryItem :=
  ⟨entry.key.map settledKey, settledOp entry.op entry.value, entry.value.settled⟩

/-- The item of a key. -/
def keyItem : QueryKey → Item
  | .text s => QueryValue.textItem s
  | .quote s => .quote .start s

theorem toItem_of_key (key : QueryKey) {op : Option QueryOp} {v : QueryValue} {back : Item}
    (h : term op v = .ok back) :
    toItem ⟨some key, op, v⟩ = .ok (.pair .start (keyItem key) back) := by
  rw [toItem, h]
  cases key <;> rfl

theorem keyOf_textItem (s : String) : keyOf (QueryValue.textItem s) = .ok (.text s) := by
  by_cases h : Text.isBareWord s
  · rw [QueryValue.textItem, if_pos h, keyOf]
  · rw [QueryValue.textItem, if_neg h, keyOf, if_neg h]

theorem keyOf_keyItem (key : QueryKey) : keyOf (keyItem key) = .ok (settledKey key) := by
  cases key with
  | text s => exact keyOf_textItem s
  | quote s => rfl

theorem keyItem_settledKey (key : QueryKey) : keyItem (settledKey key) = keyItem key := by
  cases key with
  | text s => rfl
  | quote s => by_cases h : Text.isBareWord s <;> simp [settledKey, keyItem, QueryValue.textItem, h]

/-- A value without an operator comes back without one, unless it is a list. -/
theorem termOf_toItem (v : QueryValue) : termOf v.toItem = .ok (settledOp none v, v.settled) := by
  have hback := v.ofItem_toItem
  cases v with
  | text s =>
    have hterm : termOf (QueryValue.textItem s) =
        (do return (none, ← QueryValue.ofItem (QueryValue.textItem s))) := by
      unfold QueryValue.textItem
      split <;> rfl
    rw [QueryValue.toItem] at hback ⊢
    rw [hterm, hback]
    rfl
  | list values =>
    rw [QueryValue.toItem] at hback ⊢
    rw [termOf, hback]
    rfl
  | _ =>
    rw [QueryValue.toItem] at hback ⊢
    rw [termOf, hback]
    · rfl
    · exact nofun
    · exact nofun

section Terms

variable {op : Option QueryOp} {v : QueryValue} {item : Item}

/-- The operator and the value that come back from an item without a key. -/
theorem termOf_term (h : term op v = .ok item) :
    termOf item = .ok (settledOp op v, v.settled) := by
  unfold term at h
  split at h
  · cases h
    rw [termOf, QueryValue.ofItem_toItem]
    rfl
  · cases h
    exact termOf_toItem _
  · cases h
  · cases h
    exact termOf_toItem _

theorem term_settled (h : term op v = .ok item) :
    term (settledOp op v) v.settled = .ok item := by
  have hback := v.toItem_settled
  unfold term at h
  split at h
  · cases h
    rw [settledOp, term, hback]
    exact nofun
  · cases h
    rw [QueryValue.settled] at hback ⊢
    rw [settledOp, term, hback]
    exact nofun
  · cases h
  · cases h
    cases v <;> exact congrArg Except.ok hback

/-- An item without a key has the entry of its operator and its value. -/
theorem ofItem_of_termOf (h : termOf item = .ok (op, v)) : ofItem item = .ok ⟨none, op, v⟩ := by
  cases item with
  | pair pos key value => cases h
  | _ =>
    rw [ofItem, h]
    · rfl
    · exact nofun

theorem ofItem_pair_of_termOf (key : QueryKey) (h : termOf item = .ok (op, v)) :
    ofItem (.pair .start (keyItem key) item) = .ok ⟨some (settledKey key), op, v⟩ := by
  rw [ofItem, keyOf_keyItem, h]
  rfl

end Terms

section Entries

variable {entry : QueryItem} {item : Item}

/-- What an entry stands for has an entry, the settled one. -/
theorem ofItem_toItem (h : entry.toItem = .ok item) :
    ofItem item = .ok entry.settled := by
  obtain ⟨key, op, v⟩ := entry
  cases key with
  | none =>
    obtain ⟨value, hvalue, ⟨⟩⟩ := Except.bind_eq_ok.1 h
    exact ofItem_of_termOf (termOf_term hvalue)
  | some key =>
    obtain ⟨value, hvalue, -⟩ := Except.bind_eq_ok.1 h
    cases (toItem_of_key key hvalue).symm.trans h
    exact ofItem_pair_of_termOf key (termOf_term hvalue)

/-- The settled entry stands for the same item. -/
theorem toItem_settled (h : entry.toItem = .ok item) :
    entry.settled.toItem = .ok item := by
  obtain ⟨key, op, v⟩ := entry
  cases key with
  | none =>
    obtain ⟨value, hvalue, ⟨⟩⟩ := Except.bind_eq_ok.1 h
    exact Except.bind_eq_ok.2 ⟨_, term_settled hvalue, rfl⟩
  | some key =>
    obtain ⟨value, hvalue, -⟩ := Except.bind_eq_ok.1 h
    cases (toItem_of_key key hvalue).symm.trans h
    have hback := toItem_of_key (settledKey key) (term_settled hvalue)
    rw [keyItem_settledKey] at hback
    exact hback

end Entries

end QueryItem

/-! ## Query lists -/

namespace QueryList

/-- **Query lists settle.** The items of any query list have a query list again, in which every
entry is settled, and it stands for the same items. -/
theorem toItems_settles {list : List QueryItem} {items : List Item} (h : toItems list = .ok items) :
    ofItems items = .ok (list.map QueryItem.settled) ∧
      toItems (list.map QueryItem.settled) = .ok items := by
  unfold toItems ofItems at *
  induction list generalizing items with
  | nil =>
    cases h
    exact ⟨rfl, rfl⟩
  | cons entry list ih =>
    rw [List.mapM_cons] at h
    obtain ⟨item, hitem, h⟩ := Except.bind_eq_ok.1 h
    obtain ⟨rest, hrest, ⟨⟩⟩ := Except.bind_eq_ok.1 h
    obtain ⟨hof, hto⟩ := ih hrest
    constructor
    · rw [List.mapM_cons, QueryItem.ofItem_toItem hitem, hof]
      rfl
    · rw [List.map_cons, List.mapM_cons, QueryItem.toItem_settled hitem, hto]
      rfl

/-- Marks without need, flags that are off, patterns of one piece and ranges of ranges settle. -/
theorem toItems_settles_marks :
    let list : List QueryItem :=
      [⟨some (.quote "a b"), some (.compare .gt), .list [.pattern [.wildcard false], .quote "c d"]⟩,
        ⟨some (.text "or"), none, .range (.range (.float 1.5) .null) (.infinity false)⟩,
        ⟨none, none, .list [.quote "e", .pin "f g"]⟩]
    let items : List Item :=
      [.pair .start (.quote .start "a b") (.compare .start .gt (.list .start
          [.pattern .start [.wildcard .start], .quote .start "c d"])),
        .pair .start (.quote .start "or") (.range .start (.range .start
          (.value .start (.float 1.5)) (.null .start)) (.infinity .start)),
        .list .start [.quote .start "e", .pin .start (.quote .start "f g")]]
    let settled : List QueryItem :=
      [⟨some (.text "a b"), some (.compare .gt), .list [.pattern [.wildcard true], .text "c d"]⟩,
        ⟨some (.text "or"), none, .range (.range (.float 1.5) .null) (.infinity true)⟩,
        ⟨none, some .member, .list [.quote "e", .pin "f g"]⟩]
    toItems list = .ok items ∧ ofItems items = .ok settled ∧ toItems settled = .ok items := by
  intro list items settled
  have hlist : toItems list = .ok items := rfl
  have hsettled : list.map QueryItem.settled = settled := rfl
  exact ⟨hlist, hsettled ▸ toItems_settles hlist⟩

end QueryList

end SearchQuery
