/-!
# Positions in query text

A position is the line and column of a character, both counted from 1. Positions serve
diagnostics only: two items that differ in nothing else are the same item.
-/

namespace SearchQuery

/-- Line and column of a character, both counted from 1; a column counts characters. -/
structure Position where
  line : Nat
  column : Nat
deriving DecidableEq

namespace Position

/-- The position of the first character of a text. -/
def start : Position := ⟨1, 1⟩

instance : Inhabited Position := ⟨start⟩

/-- A position as messages write it: `line:column`. -/
def text (p : Position) : String := toString p.line ++ ":" ++ toString p.column

end Position

end SearchQuery
