import Mathlib.Data.List.DropRight
import Mathlib.Tactic.Common
import SearchQuery.Token.Cursor

/-!
# Lines of a text

Where a place is in a text can be told from the text before it: `Position.atEndOf` counts the line
breaks of that text and the characters after the last of them. A cursor counts as it moves on, one
character at a time.

* `Cursor.Placed.advance`: the two agree wherever a cursor stops, unless it stops between a carriage
  return and the line feed that belongs to it.
-/

namespace SearchQuery

namespace Text

/-- How many line breaks a text holds. A carriage return and the line feed after it are one. -/
def lineBreaks : List Char → Nat
  | [] => 0
  | '\r' :: '\n' :: rest => lineBreaks rest + 1
  | c :: rest => lineBreaks rest + (isLineBreak c).toNat

/-- The characters of a text after its last line break. -/
def lastLine (text : List Char) : List Char := text.rtakeWhile fun c => !isLineBreak c

/-- A carriage return ends the text, and its line feed follows. -/
def SplitsBreak (text rest : List Char) : Prop :=
  text.getLast? = some '\r' ∧ rest.head? = some '\n'

variable {c : Char} {text rest : List Char}

theorem lineBreaks_cons (c : Char) (rest : List Char) :
    lineBreaks (c :: rest) = lineBreaks rest +
      if c = '\r' ∧ rest.head? = some '\n' then 0 else (isLineBreak c).toNat := by
  by_cases h : c = '\r' ∧ rest.head? = some '\n'
  · obtain ⟨rfl, hhead⟩ := h
    obtain ⟨tail, rfl⟩ := List.head?_eq_some_iff.1 hhead
    have hfeed : lineBreaks ('\n' :: tail) = lineBreaks tail + 1 := by simp [lineBreaks, isLineBreak]
    simp [lineBreaks, hfeed]
  · rw [lineBreaks]
    · simp [h]
    · rintro tail rfl rfl
      exact h ⟨rfl, rfl⟩

theorem SplitsBreak.cons (h : SplitsBreak text rest) (c : Char) : SplitsBreak (c :: text) rest := by
  refine ⟨?_, h.2⟩
  rw [List.getLast?_cons, h.1]
  rfl

theorem splitsBreak_concat : SplitsBreak (text ++ [c]) rest ↔ c = '\r' ∧ rest.head? = some '\n' := by
  simp [SplitsBreak]

theorem lineBreaks_append (h : ¬ SplitsBreak text rest) :
    lineBreaks (text ++ rest) = lineBreaks text + lineBreaks rest := by
  induction text with
  | nil => simp [lineBreaks]
  | cons c text ih =>
    have hhead : c = '\r' ∧ (text ++ rest).head? = some '\n' ↔
        c = '\r' ∧ text.head? = some '\n' := by
      cases text with
      | nil => simpa [SplitsBreak] using h
      | cons d text => simp
    rw [List.cons_append, lineBreaks_cons, lineBreaks_cons, ih fun hs => h (hs.cons c)]
    simp only [hhead]
    omega

theorem lastLine_concat (text : List Char) (c : Char) :
    lastLine (text ++ [c]) = if isLineBreak c then [] else lastLine text ++ [c] := by
  rw [lastLine, List.rtakeWhile_concat]
  cases isLineBreak c <;> rfl

end Text

/-! ## Positions -/

namespace Position

open Text

variable {c : Char} {before rest : List Char}

/-- The position of what follows a text that starts at the first character. -/
def atEndOf (text : List Char) : Position := ⟨1 + lineBreaks text, 1 + (lastLine text).length⟩

/-- The position goes on after a character that does not split a line break from its line feed. -/
theorem atEndOf_concat (hbefore : ¬ SplitsBreak before [c])
    (hrest : ¬ (c = '\r' ∧ rest.head? = some '\n')) :
    atEndOf (before ++ [c]) = (atEndOf before).after c rest := by
  rw [atEndOf, atEndOf, after, if_neg hrest, lineBreaks_append hbefore, lineBreaks_cons,
    lastLine_concat]
  by_cases hbreak : isLineBreak c <;> simp [hbreak, lineBreaks] <;> omega

/-- A carriage return and its line feed are one line break. -/
theorem atEndOf_crlf (before : List Char) :
    atEndOf (before ++ ['\r', '\n']) = ⟨(atEndOf before).line + 1, 1⟩ := by
  have hbefore : ¬ SplitsBreak before ['\r', '\n'] := by simp [SplitsBreak]
  have hlast : lastLine (before ++ ['\r', '\n']) = [] := by
    rw [List.append_cons, lastLine_concat]
    rfl
  rw [atEndOf, atEndOf, lineBreaks_append hbefore, hlast]
  rfl

end Position

/-! ## Cursors -/

namespace Cursor

open Text

/-- The cursor stands after a text, at the position that this text tells, and not inside a line
break. -/
structure Placed (before : List Char) (cur : Cursor) : Prop where
  position : cur.position = .atEndOf before
  whole : ¬ SplitsBreak before cur.rest

variable {before : List Char}

theorem placed_ofString (text : String) : (ofString text).Placed [] :=
  ⟨rfl, by simp [SplitsBreak]⟩

namespace Placed

variable {c : Char} {rest : List Char} {p : Position}

theorem step (h : (Cursor.mk (c :: rest) p).Placed before)
    (hc : ¬ (c = '\r' ∧ rest.head? = some '\n')) :
    (Cursor.mk rest (p.after c rest)).Placed (before ++ [c]) := by
  refine ⟨?_, by rwa [splitsBreak_concat]⟩
  have hposition : p = .atEndOf before := h.position
  rw [Position.atEndOf_concat h.whole hc, hposition]

/-- Both characters of a line break are passed before the position counts it. -/
theorem step_crlf (h : (Cursor.mk ('\r' :: '\n' :: rest) p).Placed before) :
    ((Cursor.mk ('\r' :: '\n' :: rest) p).advance 2).Placed (before ++ ['\r', '\n']) := by
  refine ⟨?_, by simp [SplitsBreak]⟩
  have hposition : p = .atEndOf before := h.position
  rw [Position.atEndOf_crlf, ← hposition]
  simp [advance, Position.after, isLineBreak]

theorem advance {text : List Char} {cur : Cursor} (h : cur.Placed before)
    (hrest : cur.rest = text ++ rest) (hwhole : ¬ SplitsBreak text rest) :
    (cur.advance text.length).Placed (before ++ text) := by
  obtain ⟨chars, p⟩ := cur
  obtain rfl : chars = text ++ rest := hrest
  -- The two characters of a line break are taken at once: between them no cursor is placed.
  induction text using lineBreaks.induct generalizing before p with
  | case1 => simpa using h
  | case2 text ih =>
    have hnext := ih (fun hs => hwhole ((hs.cons '\n').cons '\r')) _ h.step_crlf
    simpa [Cursor.advance] using hnext
  | case3 c text hne ih =>
    have hc : ¬ (c = '\r' ∧ (text ++ rest).head? = some '\n') := by
      rintro ⟨rfl, hhead⟩
      cases text with
      | nil => exact hwhole ⟨rfl, hhead⟩
      | cons d text =>
        cases hhead
        exact hne text rfl rfl
    have hnext := ih (fun hs => hwhole (hs.cons c)) _ (h.step hc)
    simpa [Cursor.advance] using hnext

end Placed

end Cursor

end SearchQuery
