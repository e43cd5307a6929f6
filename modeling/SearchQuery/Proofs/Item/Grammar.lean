import Mathlib.Data.List.Basic
import Mathlib.Data.List.Chain
import Mathlib.Tactic.Common
import SearchQuery.Item.Printer

/-!
# The items that reading gives

`IsTerm` describes the items that query text may hold between its keywords, and `IsSequence` how
the keywords combine them. Positions are free.

A group holds a sequence of terms again, so the classes of values and sequences take the class of
terms as an argument.
-/

namespace SearchQuery.Item

/-- A bare word or a quote, which may name a field. -/
inductive IsName : Item → Prop where
  | word {pos : Position} {text : String} (h : Text.isBareWord text) : IsName (.word pos text)
  | quote {pos : Position} {text : String} : IsName (.quote pos text)

/-- An item that may stand next to others of its sort in one value. -/
inductive IsPiece : Item → Prop where
  | name {item : Item} (h : IsName item) : IsPiece item
  | wildcard {pos : Position} : IsPiece (.wildcard pos)
  | anyChar {pos : Position} : IsPiece (.anyChar pos)

/-- Whether the item is a word. -/
def isWord : Item → Bool
  | word _ _ => true
  | _ => false

/-- A value that is no group. Two words next to each other would be one word. -/
inductive IsPlain : Item → Prop where
  | null {pos : Position} : IsPlain (.null pos)
  | piece {item : Item} (h : IsPiece item) : IsPlain item
  | pattern {pos : Position} {pieces : List Item} (hpieces : ∀ piece ∈ pieces, IsPiece piece)
    (hlength : 2 ≤ pieces.length)
    (hwords : pieces.IsChain fun a b => a.isWord = false ∨ b.isWord = false) :
    IsPlain (.pattern pos pieces)
  | pin {pos : Position} {target : Item} (h : IsName target) : IsPlain (.pin pos target)

/-- An item of a class under any number of `NOT`s. -/
inductive IsNegated (Term : Item → Prop) : Item → Prop where
  | term {item : Item} (h : Term item) : IsNegated Term item
  | not {pos : Position} {operand : Item} (h : IsNegated Term operand) :
    IsNegated Term (.not pos operand)

/-- A sequence of items of a class. `AND` and `OR` end it, since all that follows is their right
side. -/
inductive IsSequence (Term : Item → Prop) : List Item → Prop where
  | nil : IsSequence Term []
  | cons {item : Item} {items : List Item} (h : IsNegated Term item)
    (hs : IsSequence Term items) : IsSequence Term (item :: items)
  | and {pos : Position} {left : Item} {right : List Item} (h : IsNegated Term left)
    (hs : IsSequence Term right) (hne : right ≠ []) : IsSequence Term [.and pos left right]
  | or {pos : Position} {left : Item} {right : List Item} (h : IsNegated Term left)
    (hs : IsSequence Term right) (hne : right ≠ []) : IsSequence Term [.or pos left right]

/-- A value: plain, or a group of a sequence. -/
inductive IsValue (Term : Item → Prop) : Item → Prop where
  | plain {item : Item} (h : IsPlain item) : IsValue Term item
  | group {pos : Position} {items : List Item} (h : IsSequence Term items) :
    IsValue Term (.group pos items)

/-- A side of a range: of a class, or open. -/
inductive IsBound (Value : Item → Prop) : Item → Prop where
  | open {pos : Position} : IsBound Value (.infinity pos)
  | value {item : Item} (h : Value item) : IsBound Value item

/-- A value that may stand before `..`: a dot at its end would be taken for the first of the two. -/
structure IsStart (item : Item) : Prop where
  plain : IsPlain item
  undotted : item.print.toList.getLast? ≠ some '.'

/-- An item that stands between keywords. A group is never the start of a range or of a list,
since it ends the item. -/
inductive IsTerm : Item → Prop where
  | value {item : Item} (h : IsValue IsTerm item) : IsTerm item
  | pair {pos : Position} {key value : Item} (hkey : IsName key) (hvalue : IsTerm value) :
    IsTerm (.pair pos key value)
  | compare {pos : Position} {op : Operator} {operand : Item} (h : IsValue IsTerm operand) :
    IsTerm (.compare pos op operand)
  | range {pos : Position} {start stop : Item} (hstart : IsBound IsStart start)
    (hstop : IsBound (IsValue IsTerm) stop) : IsTerm (.range pos start stop)
  | list {pos : Position} {first : Item} {rest : List Item} (hfirst : IsPlain first)
    (hrest : ∀ item ∈ rest, IsValue IsTerm item) : IsTerm (.list pos (first :: rest))

theorem IsSequence.mono {P Q : Item → Prop} (hPQ : ∀ item, P item → Q item) {items : List Item}
    (h : IsSequence P items) : IsSequence Q items := by
  have hnegated : ∀ {item}, IsNegated P item → IsNegated Q item := by
    intro item h
    induction h with
    | term h => exact .term (hPQ _ h)
    | not _ ih => exact .not ih
  induction h with
  | nil => exact .nil
  | cons h _ ih => exact .cons (hnegated h) ih
  | and h _ hne ih => exact .and (hnegated h) ih hne
  | or h _ hne ih => exact .or (hnegated h) ih hne

end SearchQuery.Item
