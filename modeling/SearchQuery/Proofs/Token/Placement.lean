import Mathlib.Tactic.Common
import SearchQuery.Proofs.Token.Lexing

/-!
# Positions take no part in reading tokens

Where the same characters are left the same tokens are read, or reading fails for the same reason,
wherever the place is. `Scan.Alike` says this of two outcomes.

* `nextWith_alike`: one token, if what is inside a group is read alike.
* `tokensWith_alike`: a run of tokens.
-/

namespace SearchQuery

/-- The error with every position moved to the start of the text. -/
def LexError.unplaced : LexError → LexError
  | unterminatedQuote _ found remainder => unterminatedQuote .start found remainder
  | invalidEscape _ escape remainder => invalidEscape .start escape remainder
  | unterminatedGroup _ contents remainder =>
    unterminatedGroup .start (Token.unplacedAll contents) remainder
  | tooDeep _ limit => tooDeep .start limit

namespace Scan

variable {α β γ δ : Type}

/-- The outcomes differ in positions only, where `f` takes them from what was read. -/
inductive Alike (f : α → β) : Scan α → Scan α → Prop where
  | ok {a a' : α} {next next' : Cursor} (h : f a = f a') (hrest : next.rest = next'.rest) :
    Alike f (.ok a next) (.ok a' next')
  | error {e e' : LexError} {next next' : Cursor} (h : e.unplaced = e'.unplaced)
      (hrest : next.rest = next'.rest) : Alike f (.error e next) (.error e' next')

theorem Alike.map {f : α → β} {g : γ → δ} {r s : Scan α} (h : r.Alike f s) {m : α → γ}
    {m' : α → γ} (hm : ∀ a a', f a = f a' → g (m a) = g (m' a')) :
    (r.map m).Alike g (s.map m') := by
  cases h with
  | ok h hrest => exact .ok (hm _ _ h) hrest
  | error h hrest => exact .error h hrest

end Scan

namespace Lexer

/-- A reader of what is inside a group that does not look at positions. -/
def Blind (read : Cursor → Scan (List Token)) : Prop :=
  ∀ {cur cur' : Cursor}, cur.rest = cur'.rest →
    (read cur).Alike Token.unplacedAll (read cur')

variable {cur cur' : Cursor} {contents : Option (Cursor → Scan (List Token))} {limit : Nat}

/-! ## One token -/

theorem advance_rest_congr (h : cur.rest = cur'.rest) (n : Nat) :
    (cur.advance n).rest = (cur'.advance n).rest := by
  rw [Cursor.advance_rest, Cursor.advance_rest, h]

theorem remainder_congr (h : cur.rest = cur'.rest) : cur.remainder = cur'.remainder := by
  rw [Cursor.remainder, Cursor.remainder, h]

theorem readQuote_alike (h : cur.rest = cur'.rest) :
    (readQuote cur).Alike Token.unplaced (readQuote cur') := by
  unfold readQuote
  rw [← h]
  cases Text.Escape.readQuote cur.rest.tail with
  | closed text used => exact .ok rfl (advance_rest_congr h _)
  | unterminated text used =>
    refine .error ?_ (advance_rest_congr h _)
    simp only [LexError.unplaced, remainder_congr h]
  | badCode start used =>
    have hescape := advance_rest_congr h (start + 1)
    refine .error ?_ (advance_rest_congr h _)
    simp only [LexError.unplaced, hescape, remainder_congr hescape]

theorem readGroup_alike (hcontents : ∀ read ∈ contents, Blind read) (h : cur.rest = cur'.rest) :
    (readGroup limit contents cur).Alike Token.unplaced (readGroup limit contents cur') := by
  cases contents with
  | none => exact .error rfl h
  | some read =>
    have hinner := hcontents read rfl (advance_rest_congr h 1)
    simp only [readGroup]
    generalize read (cur.advance 1) = r at hinner ⊢
    generalize read (cur'.advance 1) = s at hinner ⊢
    cases hinner with
    | error he hrest => exact .error he hrest
    | ok hts hrest =>
      dsimp only
      rw [← hrest]
      split
      · exact .ok (by rw [Token.unplaced, Token.unplaced, hts]) (advance_rest_congr hrest 1)
      · refine .error ?_ hrest
        rw [LexError.unplaced, LexError.unplaced, hts, remainder_congr h]

theorem nextWith_alike (hcontents : ∀ read ∈ contents, Blind read) (h : cur.rest = cur'.rest) :
    (nextWith limit contents cur).Alike (Option.map Token.unplaced)
      (nextWith limit contents cur') := by
  have hsome (t t' : Token) (ht : t.unplaced = t'.unplaced) :
      (some t).map Token.unplaced = (some t').map Token.unplaced := congrArg some ht
  unfold nextWith
  rw [← h]
  split
  · exact .ok rfl h
  · split
    · exact .ok rfl (advance_rest_congr h _)
    · split
      · exact (readQuote_alike h).map hsome
      · split
        · exact (readGroup_alike hcontents h).map hsome
        · split
          · exact .ok rfl (advance_rest_congr h _)
          · split
            · exact .ok rfl h
            · exact .ok rfl (advance_rest_congr h _)

/-! ## All tokens -/

theorem inside_blind {fuel : Nat} (h : ∀ levels, Blind (tokensWith limit fuel levels))
    (levels : Nat) : ∀ read ∈ inside limit fuel levels, Blind read := by
  cases levels with
  | zero => simp [inside]
  | succ levels =>
    rintro read ⟨⟩
    exact h levels

/-- Tokens are read alike wherever the place is. -/
theorem tokensWith_alike (limit fuel levels : Nat) : Blind (tokensWith limit fuel levels) := by
  induction fuel generalizing levels with
  | zero =>
    intro cur cur' h
    exact .ok rfl h
  | succ fuel ih =>
    intro cur cur' h
    have hnext : (nextWith limit (inside limit fuel levels) cur).Alike (Option.map Token.unplaced)
        (nextWith limit (inside limit fuel levels) cur') := nextWith_alike (inside_blind ih levels) h
    rw [tokensWith_succ, tokensWith_succ]
    generalize nextWith limit (inside limit fuel levels) cur = r at hnext ⊢
    generalize nextWith limit (inside limit fuel levels) cur' = s at hnext ⊢
    cases hnext with
    | error he hrest => exact .error he hrest
    | @ok found found' next next' hfound hrest =>
      cases found with
      | none =>
        cases found' with
        | none => exact .ok rfl hrest
        | some t => cases hfound
      | some t =>
        cases found' with
        | none => cases hfound
        | some t' =>
          have ht : t.unplaced = t'.unplaced := Option.some.inj hfound
          have htail := ih levels hrest
          have hcons (ts ts' : List Token) (hts : Token.unplacedAll ts = Token.unplacedAll ts') :
              Token.unplacedAll (t :: ts) = Token.unplacedAll (t' :: ts') := by
            rw [Token.unplacedAll, Token.unplacedAll, ht, hts]
          cases t with
          | endOfText pos =>
            cases t' with
            | endOfText pos' => exact .ok rfl hrest
            | _ => cases ht
          | _ =>
            cases t' with
            | endOfText pos' => cases ht
            | _ => exact htail.map hcons

end Lexer

end SearchQuery
