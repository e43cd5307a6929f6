import Mathlib.Data.List.Basic
import Mathlib.Tactic.Common
import SearchQuery.Proofs.Token.Spelling

/-!
# Tokens in their canonical spelling

There is more than one way to write a query. `settledAll` settles the choices that are left to the
writer, apart from spaces, which `bareAll` leaves out: keywords are written in capitals, a pair has
a value, and no comma is left at the end of a list.
-/

namespace SearchQuery.Token

/-- Whether a value that is due before these tokens is missing. -/
def breaks : List Token → Bool
  | [] => true
  | token :: _ => token.isSpace

mutual

/-- The token in its canonical spelling. `last` tells whether a space or nothing follows it: then a
colon gets the value `NULL`, and a comma is left out. -/
def settled (last : Bool) : Token → List Token
  | word pos text =>
    [word pos (if (Text.Keyword.ofWord? text).isSome then Text.asciiUppercase text else text)]
  | sign pos .colon =>
    if last then [sign pos .colon, word pos Text.Keyword.null.text] else [sign pos .colon]
  | sign pos .comma => if last then [] else [sign pos .comma]
  | group pos contents => [group pos (settledAll contents)]
  | token => [token]

/-- The tokens in their canonical spelling. -/
def settledAll : List Token → List Token
  | [] => []
  | token :: rest => token.settled (breaks rest) ++ settledAll rest

end

mutual

/-- The token without its position, and nothing in place of a space. -/
def bare : Token → List Token
  | space _ _ => []
  | group _ contents => [group .start (bareAll contents)]
  | token => [token.unplaced]

/-- The tokens without their positions and without spaces. -/
def bareAll : List Token → List Token
  | [] => []
  | token :: rest => token.bare ++ bareAll rest

end

mutual

/-- Inside the token, every pair has its value written. -/
def Filled : Token → Prop
  | group _ contents => FilledAll contents
  | _ => True

/-- Every pair in the tokens has its value written. -/
def FilledAll : List Token → Prop
  | [] => True
  | token :: rest =>
    token.Filled ∧ (∀ pos, token = sign pos .colon → breaks rest = false) ∧ FilledAll rest

end

/-- The tokens in their canonical spelling, without positions and spaces. -/
def normalAll (tokens : List Token) : List Token := bareAll (settledAll tokens)

@[simp] theorem bareAll_append (xs ys : List Token) :
    bareAll (xs ++ ys) = bareAll xs ++ bareAll ys := by
  induction xs with
  | nil => rfl
  | cons x xs ih => simp [bareAll, ih]

mutual

/-- Positions take no part in the bare token. -/
theorem bare_unplaced : (token : Token) → token.unplaced.bare = token.bare
  | group _ contents => by rw [unplaced, bare, bare, bareAll_unplacedAll contents]
  | endOfText _ | space _ _ | word _ _ | quote _ _ | sign _ _ => rfl

theorem bareAll_unplacedAll : (tokens : List Token) → bareAll (unplacedAll tokens) = bareAll tokens
  | [] => rfl
  | token :: rest => by rw [unplacedAll, bareAll, bareAll, bare_unplaced token, bareAll_unplacedAll rest]

end

theorem breaks_append {xs : List Token} (ys : List Token) (h : breaks xs = false) :
    breaks (xs ++ ys) = false := by
  cases xs with
  | nil => cases h
  | cons x xs => exact h

theorem FilledAll.append {xs ys : List Token} (hx : FilledAll xs) (hy : FilledAll ys) :
    FilledAll (xs ++ ys) := by
  induction xs with
  | nil => exact hy
  | cons x xs ih =>
    obtain ⟨hfilled, hcolon, hx⟩ := hx
    exact ⟨hfilled, fun pos hpos => breaks_append ys (hcolon pos hpos), ih hx⟩

theorem FilledAll.of_append {xs ys : List Token} (h : FilledAll (xs ++ ys)) : FilledAll ys := by
  induction xs with
  | nil => exact h
  | cons x xs ih => exact ih h.2.2

/-! ## Canonical spelling, token by token -/

section Normal

variable (pos : Position) (rest : List Token)

theorem normalAll_cons (t : Token) :
    normalAll (t :: rest) = bareAll (t.settled (breaks rest)) ++ normalAll rest := by
  rw [normalAll, settledAll, bareAll_append, normalAll]

theorem normalAll_space (text : String) : normalAll (space pos text :: rest) = normalAll rest := by
  simp [normalAll_cons, settled, bareAll, bare]

theorem normalAll_keyword {text : String} {k : Text.Keyword}
    (h : Text.Keyword.ofWord? text = some k) :
    normalAll (word pos text :: rest) = word .start k.text :: normalAll rest := by
  have hk := Text.Keyword.ofWord?_eq_some_iff.1 h
  simp [normalAll_cons, settled, bareAll, bare, unplaced, h, hk]

theorem normalAll_word {text : String} (h : Text.Keyword.ofWord? text = none) :
    normalAll (word pos text :: rest) = word .start text :: normalAll rest := by
  simp [normalAll_cons, settled, bareAll, bare, unplaced, h]

theorem normalAll_group (contents : List Token) :
    normalAll (group pos contents :: rest) = group .start (normalAll contents) :: normalAll rest := by
  rw [normalAll_cons, settled]
  simp [bareAll, bare, normalAll]

theorem normalAll_colon_of_breaks (h : breaks rest) :
    normalAll (sign pos .colon :: rest) =
      sign .start .colon :: word .start Text.Keyword.null.text :: normalAll rest := by
  simp [normalAll_cons, settled, bareAll, bare, unplaced, h]

theorem normalAll_comma_of_breaks (h : breaks rest) :
    normalAll (sign pos .comma :: rest) = normalAll rest := by
  simp [normalAll_cons, settled, bareAll, h]

/-- Only at the end of an item is a sign not written as it stands. -/
theorem normalAll_sign {s : Sign} (h : s = .colon ∨ s = .comma → breaks rest = false) :
    normalAll (sign pos s :: rest) = sign .start s :: normalAll rest := by
  have hsettled : (sign pos s).settled (breaks rest) = [sign pos s] := by
    cases s <;> first | rfl | simp [settled, h]
  simp [normalAll_cons, hsettled, bareAll, bare, unplaced]

end Normal

end SearchQuery.Token
