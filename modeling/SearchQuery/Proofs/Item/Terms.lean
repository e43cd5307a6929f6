import Mathlib.Data.List.Perm.Basic
import SearchQuery.Proofs.Item.Literals

/-!
# The terms of a query

Groups and keywords put a query together of terms. A pair that is a term stands free; a pair in a
term of another sort, as in the operand of a comparison, is enclosed in it.

* `pairsAll_eq_flatMap_terms`: the pairs of a query are those of its terms.
* `pairsAll_eq_freePairs_iff`: all pairs stand free just if none is enclosed.
-/

namespace SearchQuery.Item

mutual

/-- The terms that groups and keywords put an item together of. -/
def terms : Item → List Item
  | group _ items => termsAll items
  | and _ left right | or _ left right => left.terms ++ termsAll right
  | not _ operand => operand.terms
  | item => [item]

/-- The terms that several items are put together of. -/
def termsAll : List Item → List Item
  | [] => []
  | item :: items => item.terms ++ termsAll items

end

/-- Whether items of this sort are terms. -/
def isTerm : Item → Bool
  | group _ _ | and _ _ _ | or _ _ _ | not _ _ => false
  | _ => true

/-- The key and value of a pair. -/
def pair? : Item → Option (Item × Item)
  | pair _ key v => some (key, v)
  | _ => none

/-- The pairs that an item encloses: those in it, unless it is a pair itself. -/
def enclosed (item : Item) : List (Item × Item) := if item.pair?.isSome then [] else item.pairs

/-- The keys and values of the pairs that stand free. -/
def freePairs (items : List Item) : List (Item × Item) := (termsAll items).filterMap pair?

/-- The keys and values of the pairs that terms enclose. -/
def enclosedPairs (items : List Item) : List (Item × Item) := (termsAll items).flatMap enclosed

mutual

theorem pairs_eq_flatMap_terms : (item : Item) → item.pairs = item.terms.flatMap pairs
  | group _ items => by rw [pairs, terms, pairsAll_eq_flatMap_terms items]
  | and _ left right | or _ left right => by
    rw [pairs, terms, List.flatMap_append, pairs_eq_flatMap_terms left,
      pairsAll_eq_flatMap_terms right]
  | not _ operand => by
    rw [terms, ← pairs_eq_flatMap_terms operand, pairs]
  | null _ | infinity _ | wildcard _ | anyChar _ | word _ _ | quote _ _ | value _ _ | pin _ _
  | pair _ _ _ | compare _ _ _ | range _ _ _ | list _ _ | pattern _ _ => (List.append_nil _).symm

/-- The pairs of a query are those of its terms. -/
theorem pairsAll_eq_flatMap_terms : (items : List Item) →
    pairsAll items = (termsAll items).flatMap pairs
  | [] => rfl
  | item :: items => by
    rw [pairsAll, termsAll, List.flatMap_append, pairs_eq_flatMap_terms item,
      pairsAll_eq_flatMap_terms items]

end

theorem pairs_eq_append (item : Item) : item.pairs = item.pair?.toList ++ item.enclosed := by
  cases item <;> rfl

/-- Each pair of a query stands free or is enclosed. -/
theorem pairsAll_perm (items : List Item) :
    (pairsAll items).Perm (freePairs items ++ enclosedPairs items) := by
  rw [pairsAll_eq_flatMap_terms, freePairs, enclosedPairs, List.filterMap_eq_flatMap_toList]
  have hpairs : pairs = fun term => term.pair?.toList ++ term.enclosed := funext pairs_eq_append
  rw [hpairs]
  exact ((termsAll items).flatMap_append_perm _ _).symm

/-- All pairs of a query stand free just if none is enclosed. -/
theorem pairsAll_eq_freePairs_iff {items : List Item} :
    pairsAll items = freePairs items ↔ enclosedPairs items = [] := by
  constructor
  · intro h
    -- Free and enclosed pairs together are as many as all pairs.
    have hlength := (pairsAll_perm items).length_eq
    rw [h, List.length_append] at hlength
    exact List.length_eq_zero_iff.1 (by omega)
  · intro h
    rw [enclosedPairs, List.flatMap_eq_nil_iff] at h
    rw [pairsAll_eq_flatMap_terms, freePairs, List.filterMap_eq_flatMap_toList]
    refine List.flatMap_congr fun term hterm => ?_
    rw [pairs_eq_append, h term hterm, List.append_nil]

end SearchQuery.Item
