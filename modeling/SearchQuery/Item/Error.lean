import SearchQuery.Token.Lexer

/-!
# Errors of query text

Why a text is no query. A fault of the tokens is passed on as it is.
-/

namespace SearchQuery

/-- Why a text is no query. -/
inductive ParseError where
  /-- The text could not be cut into tokens. -/
  | lex (error : LexError)
  /-- A value was due and the token cannot start one. -/
  | noValue (token : String) (pos : Position)
  /-- The token before a space or the end of its sequence needs a value. -/
  | missingValue (after : String) (pos : Position)
  /-- A keyword has nothing to combine. -/
  | missingOperand (keyword : Text.Keyword) (pos : Position)
  /-- The text goes on after the last token. -/
  | trailingInput (remainder : String) (pos : Position)
  /-- A group, pair or keyword nests the query deeper than `limit`. -/
  | tooDeep (limit : Nat) (pos : Position)

/-- The error as it is reported. -/
def ParseError.message : ParseError → String
  | .lex e => e.message
  | .noValue token pos => "no valid value type: unexpected " ++ token ++ " at " ++ pos.text
  | .missingValue after pos => "expected a value after " ++ after ++ " at " ++ pos.text
  | .missingOperand keyword pos =>
    "`" ++ keyword.text ++ "` at " ++ pos.text ++ " is missing an operand"
  | .trailingInput remainder pos =>
    "unexpected input " ++ Text.shown remainder ++ " at " ++ pos.text
  | .tooDeep limit pos =>
    "nesting deeper than " ++ toString limit ++ " levels at " ++ pos.text

end SearchQuery
