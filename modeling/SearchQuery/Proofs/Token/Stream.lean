import Mathlib.Tactic.Common
import SearchQuery.Proofs.Token.Faults
import SearchQuery.Token.Stream

/-!
# Token streams are kept through failures

* `tokensWith_eq`: a stream reads what the lexer reads with the levels that its open groups leave,
  and has as many groups open after that as before, however reading ended.
* `opened_after`: so has a stream after any number of calls.
* `answer_after`: a stream that was called before, whether or not the calls failed, is answered like
  a new one over the text that is left.
-/

namespace SearchQuery

namespace Lexer

variable {limit fuel : Nat} {cur cur' : Cursor}

/-- What is inside a group matters to a group alone. -/
theorem nextWith_of_not_group (contents contents' : Option (Cursor → Scan (List Token)))
    (h : cur.rest.head? ≠ some '(') :
    nextWith limit contents cur = nextWith limit contents' cur := by
  unfold nextWith
  split
  · rfl
  · rename_i c cs hrest
    have hc : c ≠ '(' := by
      rintro rfl
      exact h (by rw [hrest]; rfl)
    simp only [if_neg hc]

theorem next_eq_nextWith (hfuel : cur.rest.length ≤ fuel + 1) :
    next limit cur = nextWith limit (inside limit fuel limit) cur := by
  rw [next_eq_nextAt, nextWith_inside hfuel]

/-- The next token is read alike wherever the place is. -/
theorem next_alike (limit : Nat) (h : cur.rest = cur'.rest) :
    (next limit cur).Alike (Option.map Token.unplaced) (next limit cur') := by
  have hfuel : cur.rest.length ≤ cur.rest.length + 1 := Nat.le_succ _
  have hfuel' : cur'.rest.length ≤ cur.rest.length + 1 := h ▸ hfuel
  rw [next_eq_nextWith hfuel, next_eq_nextWith hfuel']
  exact nextWith_alike (inside_blind (tokensWith_alike limit _) limit) h

theorem tokens_alike (limit : Nat) (h : cur.rest = cur'.rest) :
    (tokens limit cur).Alike Token.unplacedAll (tokens limit cur') := by
  rw [tokens, tokens, ← h]
  exact tokensWith_alike limit _ limit h

end Lexer

namespace TokenStream

variable {limit fuel : Nat} {s : TokenStream}

/-! ## One call -/

/-- The levels that are left to groups inside those that are open. -/
def levels (limit : Nat) (s : TokenStream) : Nat := limit - s.opened

/-- One token is read as the lexer reads it, and its group is closed again, if this holds of the
reader of what is inside. -/
theorem nextWith_eq {contents : TokenStream → Counted (List Token)}
    (hcontents : ∀ s, contents s =
      ⟨Lexer.tokensWith limit fuel (s.levels limit) s.cursor, s.opened⟩) :
    nextWith limit contents s =
      ⟨Lexer.nextWith limit (Lexer.inside limit fuel (s.levels limit)) s.cursor, s.opened⟩ := by
  unfold nextWith
  split
  · rename_i h
    obtain ⟨below, hbelow⟩ : ∃ below, s.levels limit = below + 1 :=
      ⟨limit - (s.opened + 1), by have := h.2; unfold levels; omega⟩
    have hinner : (⟨s.cursor.advance 1, s.opened + 1⟩ : TokenStream).levels limit = below := by
      rw [levels] at hbelow ⊢
      exact Nat.pred_eq_of_eq_succ hbelow
    rw [hcontents, hinner, hbelow]
    exact congrArg (Counted.mk · s.opened) (Lexer.nextWith_congr rfl)
  · rename_i h
    congr 1
    by_cases hgroup : s.cursor.rest.head? = some '('
    · have hlevels : s.levels limit = 0 := by
        have hopened : ¬ s.opened < limit := fun hopened => h ⟨hgroup, hopened⟩
        unfold levels
        omega
      rw [hlevels]
      rfl
    · exact Lexer.nextWith_of_not_group _ _ hgroup

/-- Tokens are read as the lexer reads them, and all groups are closed again. -/
theorem tokensWith_eq (limit fuel : Nat) (s : TokenStream) : tokensWith limit fuel s =
    ⟨Lexer.tokensWith limit fuel (s.levels limit) s.cursor, s.opened⟩ := by
  induction fuel generalizing s with
  | zero => rfl
  | succ fuel ih =>
    rw [Lexer.tokensWith_succ, tokensWith, nextWith_eq ih]
    cases Lexer.nextWith limit (Lexer.inside limit fuel (s.levels limit)) s.cursor with
    | error e next => rfl
    | ok found next =>
      cases found with
      | none => rfl
      | some token =>
        cases token with
        | endOfText pos => rfl
        | _ =>
          dsimp only
          rw [ih]
          rfl

/-- What a lexer answers a call with at a place. -/
def Call.read (limit : Nat) : Call → Cursor → Scan Answer
  | next, cur => (Lexer.next limit cur).map .token
  | all, cur => (Lexer.tokens limit cur).map .tokens

/-- A stream with no group open is answered as the lexer answers at its place, and has no group
open after that. -/
theorem answer_eq (h : s.opened = 0) (call : Call) :
    s.answer limit call = ⟨call.read limit s.cursor, 0⟩ := by
  have hlevels : s.levels limit = limit := by
    rw [levels, h, Nat.sub_zero]
  cases call with
  | next =>
    rw [answer, nextWith_eq (tokensWith_eq limit _), hlevels, h, Call.read,
      Lexer.next_eq_nextWith (Nat.le_succ _)]
  | all =>
    rw [answer, tokensWith_eq, hlevels, h]
    rfl

/-! ## Any number of calls -/

theorem opened_after (limit : Nat) (calls : List Call) (h : s.opened = 0) :
    (s.after limit calls).opened = 0 := by
  induction calls generalizing s with
  | nil => exact h
  | cons call calls ih =>
    have hcall : (s.answer limit call).stream.opened = 0 := by
      rw [answer_eq h]
      rfl
    exact ih hcall

/-- The answer with every position moved to the start of the text. -/
def Answer.unplaced : Answer → Answer
  | token t => token (t.map Token.unplaced)
  | tokens ts => tokens (Token.unplacedAll ts)

/-- Where the same characters are left the lexer gives the same answer, positions apart. -/
theorem Call.read_alike (call : Call) {cur cur' : Cursor} (h : cur.rest = cur'.rest) :
    (call.read limit cur).Alike Answer.unplaced (call.read limit cur') := by
  cases call with
  | next => exact (Lexer.next_alike limit h).map fun t t' ht => congrArg Answer.token ht
  | all => exact (Lexer.tokens_alike limit h).map fun ts ts' hts => congrArg Answer.tokens hts

/-- **Streams are kept through failures.** After any calls, of which some may have failed, no group
is open, and a call is answered as by a new stream over the text that is left: with the same tokens
or the same error, positions apart, and with the same text left after it. -/
theorem answer_after (limit : Nat) (text : String) (calls : List Call) (call : Call) :
    let s := (ofString text).after limit calls
    s.opened = 0 ∧ (s.answer limit call).scan.Alike Answer.unplaced
      ((ofString s.cursor.remainder).answer limit call).scan := by
  intro s
  have hopened : s.opened = 0 := opened_after limit calls rfl
  refine ⟨hopened, ?_⟩
  rw [answer_eq hopened, answer_eq rfl]
  exact call.read_alike String.toList_ofList.symm

/-- The group that was too deep for the first call may be read by the second. -/
example : let s := (ofString "((a))").after 1 [.next]
    s.cursor.remainder = "(a))" ∧ (s.after 1 [.next]).cursor.remainder = ")" := by
  decide +kernel

end TokenStream

end SearchQuery
