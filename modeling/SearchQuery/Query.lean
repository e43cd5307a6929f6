import SearchQuery.Item.Printer
import SearchQuery.Item.Reader

/-!
# Queries

A query is a list of items. `Query.decode` reads as much of a text as there are tokens,
`Query.parse` insists on all of it, and `Query.print` writes a query back.
-/

namespace SearchQuery.Query

/-- How deep a query may nest unless told otherwise. -/
def defaultLimit : Nat := 64

/-- What was read of a text. -/
structure Decoded where
  items : List Item
  /-- The text from the first character on that starts no token. -/
  remainder : String
  /-- Where the remainder starts. -/
  position : Position

/-- Reads the items of a text up to the first character that starts no token. -/
def decode (limit : Nat) (text : String) : Except ParseError Decoded :=
  match tokenize limit text with
  | .error e => .error (.lex e)
  | .ok tokenized =>
    (Item.ofTokens limit tokenized.tokens).map fun items =>
      ⟨items, tokenized.remainder, tokenized.position⟩

/-- Reads the items of a whole text. -/
def parse (limit : Nat) (text : String) : Except ParseError (List Item) :=
  match decode limit text with
  | .error e => .error e
  | .ok decoded =>
    if decoded.remainder.isEmpty then .ok decoded.items
    else .error (.trailingInput decoded.remainder decoded.position)

/-- Items as query text, one blank between them. -/
def print (items : List Item) : String := Item.printAll " " items

/-- Writes a query in its canonical form. -/
def format (limit : Nat) (text : String) : Except ParseError String := (parse limit text).map print

end SearchQuery.Query
