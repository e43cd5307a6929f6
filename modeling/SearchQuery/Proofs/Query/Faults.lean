import Mathlib.Tactic.Common
import SearchQuery.Proofs.Item.Faults
import SearchQuery.Proofs.Token.Lexing
import SearchQuery.Query

/-!
# Errors of queries point at tokens

* `parse_error_points`: a text that can be cut into tokens but is no query has a token that the
  error names, at the place where it stands.
-/

namespace SearchQuery

/-- The tokens of the text are no query, as far as they were cut. -/
def ParseError.IsSyntax : ParseError → Prop
  | noValue _ _ | missingValue _ _ | missingOperand _ _ | tooDeep _ _ => True
  | lex _ | trailingInput _ _ => False

namespace Query

open Item Token

variable {limit : Nat} {text : String} {e : ParseError}

theorem parse_eq_error (h : parse limit text = .error e) (he : e.IsSyntax) :
    ∃ t, tokenize limit text = .ok t ∧ ofTokens limit t.tokens = .error e := by
  unfold parse at h
  split at h
  · rename_i hdecode
    cases h
    unfold decode at hdecode
    split at hdecode
    · cases hdecode
      cases he
    · rename_i t htokens
      exact ⟨t, htokens, Except.map_eq_error.1 hdecode⟩
  · split at h
    · cases h
    · cases h
      cases he

/-- **Errors point at tokens.** Where a text fails to be read for its tokens, one of these, in some
group or in none, stands at the place of the error and is what the error says: called by its name,
keywords as such, where no value starts with it, a comparison or `^` with a space or nothing behind
it where a value is missing, the `AND`, `OR` or `NOT` that lacks an operand, and what nests too
deep. -/
theorem parse_error_points (h : parse limit text = .error e) (he : e.IsSyntax) :
    ∃ t, tokenize limit text = .ok t ∧ ∃ sequence token after,
      HasSequence t.tokens sequence ∧ token :: after <:+ sequence ∧
        e.PointsAt limit token after := by
  obtain ⟨t, htokens, herror⟩ := parse_eq_error h he
  exact ⟨t, htokens, ofTokens_faulty ⟨tokenize_proper htokens, .inl rfl⟩ herror⟩

/-- A colon with no key before it, since a time was not put in quotes, an operator before a space
inside a group, and keywords where a value or the name of a field is due. -/
theorem parse_error_points_time :
    (parse 4 "at:<=18:26" = .error (.noValue "`:`" ⟨1, 8⟩) ∧
      ∃ t, tokenize 4 "at:<=18:26" = .ok t ∧ Faulty 4 t.tokens (.noValue "`:`" ⟨1, 8⟩)) ∧
    (parse 4 "a (b:> c)" = .error (.missingValue "operator `>`" ⟨1, 6⟩) ∧
      ∃ t, tokenize 4 "a (b:> c)" = .ok t ∧
        Faulty 4 t.tokens (.missingValue "operator `>`" ⟨1, 6⟩)) ∧
    (parse 4 "a:>and" = .error (.noValue "`AND`" ⟨1, 4⟩) ∧
      ∃ t, tokenize 4 "a:>and" = .ok t ∧ Faulty 4 t.tokens (.noValue "`AND`" ⟨1, 4⟩)) ∧
    parse 4 "^Null" = .error (.noValue "`NULL`" ⟨1, 2⟩) ∧
      ∃ t, tokenize 4 "^Null" = .ok t ∧ Faulty 4 t.tokens (.noValue "`NULL`" ⟨1, 2⟩) := by
  have htime : parse 4 "at:<=18:26" = .error (.noValue "`:`" ⟨1, 8⟩) := rfl
  have hspace : parse 4 "a (b:> c)" = .error (.missingValue "operator `>`" ⟨1, 6⟩) := rfl
  have hvalue : parse 4 "a:>and" = .error (.noValue "`AND`" ⟨1, 4⟩) := rfl
  have hname : parse 4 "^Null" = .error (.noValue "`NULL`" ⟨1, 2⟩) := rfl
  exact ⟨⟨htime, parse_error_points htime trivial⟩, ⟨hspace, parse_error_points hspace trivial⟩,
    ⟨hvalue, parse_error_points hvalue trivial⟩, hname, parse_error_points hname trivial⟩

end Query

end SearchQuery
