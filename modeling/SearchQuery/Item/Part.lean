import SearchQuery.Item.Basic
import SearchQuery.Item.Error

/-!
# Combining parts

A sequence of tokens is first read into parts: items, and the keywords `AND`, `OR` and `NOT`
between them. Combining nests the parts. `NOT` takes the one item after it, while `AND` and `OR`
take all that follows as their right side:

    a AND b c       And(a, [b, c])
    a AND b OR c    And(a, [Or(b, [c])])
    NOT a OR b      Or(Not(a), [b])
-/

namespace SearchQuery

/-- An item or a keyword that combines items. -/
inductive Part where
  | item (item : Item)
  | and (pos : Position)
  | or (pos : Position)
  | not (pos : Position)

namespace Part

/-- An item under the `NOT`s before it, the nearest first. -/
def negate (nots : List Position) (item : Item) : Item := nots.foldl (fun i pos => .not pos i) item

/-- Combines parts that follow `nots`, the positions of the `NOT`s right before them, the nearest
first. -/
def combineAfter (nots : List Position) : List Part → Except ParseError (List Item)
  | [] =>
    match nots with
    | [] => .ok []
    | pos :: _ => .error (.missingOperand .not pos)
  | not pos :: rest => combineAfter (pos :: nots) rest
  | and pos :: _ => .error (.missingOperand .and pos)
  | or pos :: _ => .error (.missingOperand .or pos)
  | [item i] => .ok [negate nots i]
  | [item _, and pos] => .error (.missingOperand .and pos)
  | [item _, or pos] => .error (.missingOperand .or pos)
  | item i :: and pos :: rest => do return [.and pos (negate nots i) (← combineAfter [] rest)]
  | item i :: or pos :: rest => do return [.or pos (negate nots i) (← combineAfter [] rest)]
  | item i :: rest => do return negate nots i :: (← combineAfter [] rest)

/-- Combines parts into items. -/
def combine (parts : List Part) : Except ParseError (List Item) := combineAfter [] parts

end Part

end SearchQuery
