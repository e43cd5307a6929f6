import SearchQuery.Position
import SearchQuery.Text.CharClass

/-!
# Cursors

A cursor is a place in a text: the characters that are left and the position of the next one.
A carriage return right before a line feed belongs to that line break and does not move the
position; any other line break starts a line.
-/

namespace SearchQuery

/-- The position after the character `c` at position `p`, when `rest` follows it. -/
def Position.after (p : Position) (c : Char) (rest : List Char) : Position :=
  if c = '\r' ∧ rest.head? = some '\n' then p
  else if Text.isLineBreak c then ⟨p.line + 1, 1⟩
  else ⟨p.line, p.column + 1⟩

/-- A place in a text. -/
structure Cursor where
  /-- The characters that are left. -/
  rest : List Char
  /-- The position of the next character. -/
  position : Position
deriving DecidableEq

namespace Cursor

/-- The first place of a text. -/
def ofString (text : String) : Cursor := ⟨text.toList, .start⟩

/-- The place `n` characters further on, or the end of the text. -/
def advance : Nat → Cursor → Cursor
  | 0, cur => cur
  | _ + 1, ⟨[], p⟩ => ⟨[], p⟩
  | n + 1, ⟨c :: rest, p⟩ => advance n ⟨rest, p.after c rest⟩

/-- The text that is left. -/
def remainder (cur : Cursor) : String := String.ofList cur.rest

@[simp] theorem advance_zero (cur : Cursor) : cur.advance 0 = cur := rfl

@[simp] theorem advance_rest (n : Nat) (cur : Cursor) :
    (cur.advance n).rest = cur.rest.drop n := by
  induction n generalizing cur with
  | zero => rfl
  | succ n ih =>
    obtain ⟨rest, p⟩ := cur
    cases rest with
    | nil => rfl
    | cons c rest => simp [advance, ih]

/-- Two moves are one move over both distances. -/
theorem advance_advance (m n : Nat) (cur : Cursor) :
    (cur.advance m).advance n = cur.advance (m + n) := by
  induction m generalizing cur with
  | zero => simp
  | succ m ih =>
    obtain ⟨rest, p⟩ := cur
    cases rest with
    | nil => cases n <;> simp [advance]
    | cons c rest => simp [advance, ih, Nat.succ_add]

end Cursor

end SearchQuery
