import Mathlib.Data.List.Basic
import Mathlib.Tactic.Common
import SearchQuery.Proofs.Item.Parts

/-!
# How deep items nest

The levels that items take when they are read. A group and a pair with a value take one each, and
so does every keyword of a sequence, on top of the deepest of its items. The value `NULL` of a pair
may be left out, which takes no level, or written, which takes one: `left` says how much it takes.

`collapse` puts the only item of a list in the list's place, as it is read back. Neither that nor
the positions of items change their levels.
-/

namespace SearchQuery

/-- Whether the part is a keyword. -/
def Part.isConnective : Part → Bool
  | item _ => false
  | _ => true

namespace Item

mutual

/-- How many keywords an item is combined with. -/
def connectives : Item → Nat
  | and _ left right | or _ left right => left.connectives + (connectivesAll right + 1)
  | not _ operand => operand.connectives + 1
  | _ => 0

/-- How many keywords items are combined with. -/
def connectivesAll : List Item → Nat
  | [] => 0
  | item :: items => item.connectives + connectivesAll items

end

mutual

/-- The levels inside an item, the keywords that it is combined with apart. -/
def nesting (left : Nat) : Item → Nat
  | pair _ key (.null _) => max (key.nesting left) left
  | pair _ key v => max (key.nesting left) (v.nesting left + 1)
  | pin _ target => target.nesting left
  | compare _ _ operand => operand.nesting left
  | range _ start stop => max (start.nesting left) (stop.nesting left)
  | list _ items | pattern _ items => nestingAll left items
  | group _ items => connectivesAll items + nestingAll left items + 1
  | and _ l right | or _ l right => max (l.nesting left) (nestingAll left right)
  | not _ operand => operand.nesting left
  | _ => 0

/-- The levels inside the deepest of the items. -/
def nestingAll (left : Nat) : List Item → Nat
  | [] => 0
  | item :: items => max (item.nesting left) (nestingAll left items)

end

/-- The levels that a sequence takes. -/
def levels (left : Nat) (items : List Item) : Nat := connectivesAll items + nestingAll left items

/-- The items as a list, unless there is only one. -/
def listed (pos : Position) : List Item → Item
  | [item] => item
  | items => .list pos items

mutual

/-- The item with every list of one item replaced by that item. -/
def collapse : Item → Item
  | pin pos target => .pin pos target.collapse
  | pair pos key v => .pair pos key.collapse v.collapse
  | compare pos op operand => .compare pos op operand.collapse
  | range pos start stop => .range pos start.collapse stop.collapse
  | list pos items => listed pos (collapseAll items)
  | group pos items => .group pos (collapseAll items)
  | pattern pos pieces => .pattern pos (collapseAll pieces)
  | and pos left right => .and pos left.collapse (collapseAll right)
  | or pos left right => .or pos left.collapse (collapseAll right)
  | not pos operand => .not pos operand.collapse
  | item => item

/-- The items with every list of one item replaced by that item. -/
def collapseAll : List Item → List Item
  | [] => []
  | item :: items => item.collapse :: collapseAll items

end

/-! ## Levels by parts -/

mutual

theorem connectives_eq_countP : (item : Item) →
    item.connectives = item.parts.countP Part.isConnective
  | and _ left right | or _ left right => by
    simp [connectives, parts, List.countP_cons, Part.isConnective, connectives_eq_countP left,
      connectivesAll_eq_countP right]
  | not _ operand => by
    simp [connectives, parts, List.countP_cons, Part.isConnective, connectives_eq_countP operand]
  | null _ | infinity _ | wildcard _ | anyChar _ | word _ _ | quote _ _ | value _ _ | pin _ _
  | pair _ _ _ | compare _ _ _ | range _ _ _ | list _ _ | group _ _ | pattern _ _ => rfl

theorem connectivesAll_eq_countP : (items : List Item) →
    connectivesAll items = (partsAll items).countP Part.isConnective
  | [] => rfl
  | item :: items => by
    simp [connectivesAll, partsAll, connectives_eq_countP item, connectivesAll_eq_countP items]

end

mutual

/-- The levels inside an item are those inside its parts. -/
theorem nesting_le_iff (left : Nat) {n : Nat} : (item : Item) →
    (item.nesting left ≤ n ↔ ∀ i, .item i ∈ item.parts → i.nesting left ≤ n)
  | and _ l right | or _ l right => by
    simp only [nesting, parts, Nat.max_le, nesting_le_iff left l, nestingAll_le_iff left right,
      List.mem_append, List.mem_cons, reduceCtorEq, false_or, or_imp, forall_and]
  | not _ operand => by simp [nesting, parts, nesting_le_iff left operand]
  | null _ | infinity _ | wildcard _ | anyChar _ | word _ _ | quote _ _ | value _ _ | pin _ _
  | pair _ _ _ | compare _ _ _ | range _ _ _ | list _ _ | group _ _ | pattern _ _ => by
    simp [parts]

theorem nestingAll_le_iff (left : Nat) {n : Nat} : (items : List Item) →
    (nestingAll left items ≤ n ↔ ∀ i, .item i ∈ partsAll items → i.nesting left ≤ n)
  | [] => by simp [nestingAll, partsAll]
  | item :: items => by
    simp only [nestingAll, partsAll, Nat.max_le, nesting_le_iff left item, nestingAll_le_iff left items,
      List.mem_append, or_imp, forall_and]

end

theorem nestingAll_le {left n : Nat} {items : List Item}
    (h : ∀ item ∈ items, item.nesting left ≤ n) : nestingAll left items ≤ n := by
  induction items with
  | nil => exact Nat.zero_le n
  | cons item items ih =>
    rw [List.forall_mem_cons] at h
    exact Nat.max_le.2 ⟨h.1, ih h.2⟩

theorem nesting_le_nestingAll {left : Nat} {items : List Item} {item : Item} (h : item ∈ items) :
    item.nesting left ≤ nestingAll left items := by
  induction items with
  | nil => cases h
  | cons first items ih =>
    rw [nestingAll]
    rcases List.mem_cons.1 h with rfl | h
    · exact Nat.le_max_left _ _
    · exact Nat.le_trans (ih h) (Nat.le_max_right _ _)

theorem IsPiece.nesting_eq {item : Item} (h : IsPiece item) (left : Nat) :
    item.nesting left = 0 := by
  cases h with
  | name h => cases h <;> rfl
  | _ => rfl

theorem IsPlain.nesting_eq {item : Item} (h : IsPlain item) (left : Nat) :
    item.nesting left = 0 := by
  cases h with
  | null => rfl
  | piece h => exact h.nesting_eq left
  | pattern hpieces _ _ =>
    exact Nat.le_zero.1 (nestingAll_le fun piece hpiece =>
      Nat.le_of_eq ((hpieces piece hpiece).nesting_eq left))
  | pin h => exact (IsPiece.name h).nesting_eq left

theorem nesting_le_levels (left : Nat) {items : List Item} {i : Item}
    (h : .item i ∈ partsAll items) : i.nesting left ≤ levels left items := by
  have := (nestingAll_le_iff left items).1 (Nat.le_refl _) i h
  rw [levels]
  omega

theorem nesting_one_pair (pos : Position) (key v : Item) :
    (pair pos key v).nesting 1 = max (key.nesting 1) (v.nesting 1 + 1) := by
  cases v <;> rfl

theorem nesting_pair_le {left : Nat} (h : left ≤ 1) (pos : Position) (key v : Item) :
    (pair pos key v).nesting left ≤ max (key.nesting left) (v.nesting left + 1) := by
  cases v <;> simp only [nesting] <;> omega

theorem nesting_listed (left : Nat) (pos : Position) (items : List Item) :
    (listed pos items).nesting left = nestingAll left items := by
  rcases items with _ | ⟨item, _ | ⟨next, items⟩⟩
  · rfl
  · simp [listed, nestingAll]
  · rfl

/-! ## The value that may be left out -/

mutual

/-- Writing the value `NULL` of a pair takes one level more than leaving it out. -/
theorem nesting_one_le : (item : Item) → item.nesting 1 ≤ item.nesting 0 + 1
  | pair _ key v => by
    have hkey := nesting_one_le key
    have hv := nesting_one_le v
    cases v <;> simp only [nesting] at * <;> omega
  | pin _ inner | compare _ _ inner | not _ inner => nesting_one_le inner
  | range _ l r => by
    have hl := nesting_one_le l
    have hr := nesting_one_le r
    simp only [nesting]
    omega
  | list _ items | pattern _ items => nestingAll_one_le items
  | group _ items => by
    have := nestingAll_one_le items
    simp only [nesting]
    omega
  | and _ l right | or _ l right => by
    have hl := nesting_one_le l
    have hright := nestingAll_one_le right
    simp only [nesting]
    omega
  | null _ | infinity _ | wildcard _ | anyChar _ | word _ _ | quote _ _ | value _ _ =>
    Nat.zero_le _

theorem nestingAll_one_le : (items : List Item) → nestingAll 1 items ≤ nestingAll 0 items + 1
  | [] => Nat.zero_le _
  | item :: items => by
    have hitem := nesting_one_le item
    have hitems := nestingAll_one_le items
    simp only [nestingAll]
    omega

end

theorem levels_one_le (items : List Item) : levels 1 items ≤ levels 0 items + 1 := by
  have := nestingAll_one_le items
  simp only [levels]
  omega

/-! ## Induction on terms -/

/-- What holds of plain values, and of every other term if it holds of the terms inside, holds of
all terms. -/
theorem IsTerm.induct {motive : Item → Prop}
    (plain : ∀ {item}, IsPlain item → motive item)
    (group : ∀ {pos items}, IsSequence IsTerm items →
      (∀ i, .item i ∈ partsAll items → motive i) → motive (.group pos items))
    (pair : ∀ {pos key v}, IsName key → IsTerm v → motive v → motive (.pair pos key v))
    (compare : ∀ {pos op operand}, IsValue IsTerm operand → motive operand →
      motive (.compare pos op operand))
    (range : ∀ {pos start stop}, IsBound IsStart start → IsBound (IsValue IsTerm) stop →
      (IsValue IsTerm stop → motive stop) → motive (.range pos start stop))
    (list : ∀ {pos first rest}, IsPlain first → (∀ item ∈ rest, IsValue IsTerm item) →
      (∀ item ∈ rest, motive item) → motive (.list pos (first :: rest)))
    {item : Item} (h : IsTerm item) : motive item := by
  have hlevel (n : Nat) : ∀ item, IsTerm item → item.nesting 1 ≤ n → motive item := by
    induction n using Nat.strong_induction_on with
    | _ n ih =>
      have hvalue {item : Item} (h : IsValue IsTerm item) (hn : item.nesting 1 ≤ n) :
          motive item := by
        cases h with
        | plain h => exact plain h
        | @group pos items h =>
          rw [nesting] at hn
          refine group h fun i hi => ?_
          have hlt := nesting_le_levels 1 hi
          rw [levels] at hlt
          exact ih (i.nesting 1) (by omega) i (h.forall_parts (fun _ => IsTerm.isAtom) i hi)
            (Nat.le_refl _)
      intro item h hn
      cases h with
      | value h => exact hvalue h hn
      | @pair pos key v hkey hv =>
        rw [nesting_one_pair, Nat.max_le] at hn
        exact pair hkey hv (ih (v.nesting 1) (by omega) v hv (Nat.le_refl _))
      | compare h => exact compare h (hvalue h hn)
      | range hstart hstop =>
        rw [nesting, Nat.max_le] at hn
        exact range hstart hstop fun h => hvalue h hn.2
      | @list pos first rest hfirst hrest =>
        rw [nesting, nestingAll, Nat.max_le] at hn
        refine list hfirst hrest fun item hitem => hvalue (hrest item hitem) ?_
        exact Nat.le_trans (nesting_le_nestingAll hitem) hn.2
  exact hlevel _ item h (Nat.le_refl _)

end Item

end SearchQuery
