import Mathlib.Tactic.Common
import SearchQuery.Token.Lexer
import SearchQuery.Proofs.Token.Lexing

/-!
# More levels for groups

Where groups may nest deeper the same tokens are read, or reading fails for the same reason at the
same place, unless a group was too deep. `Scan.Raised` says this of two outcomes.

* `tokensWith_raised`: a run of tokens. What is inside a group is a run with one level less.
* `tokenize_raised`: the tokens of a text.
-/

namespace SearchQuery

namespace Scan

variable {α β : Type} {r s : Scan α}

/-- The outcome `s` is that of `r` with more levels: the same, unless `r` met a group too deep. -/
def Raised (r s : Scan α) : Prop :=
  (∃ pos limit next, r = .error (.tooDeep pos limit) next) ∨ s = r

namespace Raised

theorem refl (r : Scan α) : r.Raised r := .inr rfl

theorem tooDeep (pos : Position) (limit : Nat) (next : Cursor) (s : Scan α) :
    (Scan.error (.tooDeep pos limit) next).Raised s := .inl ⟨pos, limit, next, rfl⟩

theorem map (h : r.Raised s) (f : α → β) : (r.map f).Raised (s.map f) := by
  obtain ⟨pos, limit, next, rfl⟩ | rfl := h
  · exact tooDeep pos limit next _
  · exact refl _

end Raised

end Scan

namespace Lexer

variable {limit limit' : Nat} {contents contents' : Option (Cursor → Scan (List Token))}

/-! ## One token -/

theorem readGroup_raised
    (hcontents : ∀ read ∈ contents, ∃ read' ∈ contents', ∀ cur, (read cur).Raised (read' cur))
    (cur : Cursor) : (readGroup limit contents cur).Raised (readGroup limit' contents' cur) := by
  cases contents with
  | none => exact .tooDeep cur.position limit cur _
  | some read =>
    obtain ⟨read', rfl, hread⟩ := hcontents read rfl
    simp only [readGroup]
    obtain ⟨pos, n, next, h⟩ | h := hread (cur.advance 1)
    · rw [h]
      exact .tooDeep pos n next _
    · rw [h]
      exact .refl _

theorem nextWith_raised
    (hcontents : ∀ read ∈ contents, ∃ read' ∈ contents', ∀ cur, (read cur).Raised (read' cur))
    (cur : Cursor) : (nextWith limit contents cur).Raised (nextWith limit' contents' cur) := by
  unfold nextWith
  split
  · exact .refl _
  · split
    · exact .refl _
    · split
      · exact .refl _
      · split
        · exact (readGroup_raised hcontents cur).map some
        · exact .refl _

/-! ## All tokens -/

theorem tokensWith_raised (limit limit' fuel : Nat) {levels levels' : Nat} (h : levels ≤ levels')
    (cur : Cursor) :
    (tokensWith limit fuel levels cur).Raised (tokensWith limit' fuel levels' cur) := by
  induction fuel generalizing levels levels' cur with
  | zero => exact .refl _
  | succ fuel ih =>
    have hcontents : ∀ read ∈ inside limit fuel levels,
        ∃ read' ∈ inside limit' fuel levels', ∀ cur, (read cur).Raised (read' cur) := by
      cases levels with
      | zero => simp [inside]
      | succ levels =>
        obtain ⟨levels', rfl⟩ := Nat.exists_eq_add_one_of_ne_zero (show levels' ≠ 0 by omega)
        rintro _ ⟨⟩
        exact ⟨_, rfl, ih (Nat.le_of_succ_le_succ h)⟩
    have hraised : (nextWith limit (inside limit fuel levels) cur).Raised
        (nextWith limit' (inside limit' fuel levels') cur) := nextWith_raised hcontents cur
    rw [tokensWith_succ, tokensWith_succ]
    obtain ⟨pos, n, next, hnext⟩ | hnext := hraised
    · rw [hnext]
      exact .tooDeep pos n next _
    · rw [hnext]
      split
      · exact .refl _
      · exact .refl _
      · exact .refl _
      · exact (ih h _).map _

theorem tokens_raised (h : limit ≤ limit') (cur : Cursor) :
    (tokens limit cur).Raised (tokens limit' cur) :=
  tokensWith_raised limit limit' cur.rest.length h cur

end Lexer

/-- A text is cut alike under a higher limit, unless the lower one was too low. -/
theorem tokenize_raised {limit limit' : Nat} (h : limit ≤ limit') (text : String) :
    (∃ pos n, tokenize limit text = .error (.tooDeep pos n)) ∨
      tokenize limit' text = tokenize limit text := by
  unfold tokenize
  obtain ⟨pos, n, next, hdeep⟩ | hsame := Lexer.tokens_raised h (.ofString text)
  · rw [hdeep]
    exact .inl ⟨pos, n, rfl⟩
  · rw [hsame]
    exact .inr rfl

end SearchQuery
