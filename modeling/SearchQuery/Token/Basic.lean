import SearchQuery.Operator
import SearchQuery.Position
import SearchQuery.Text.Escape
import SearchQuery.Text.Shown
import SearchQuery.Text.Word

/-!
# Tokens

The flat vocabulary of query text: spaces, words, quoted texts, signs, and groups in parentheses,
which hold tokens themselves. Each token knows where it starts.
-/

namespace SearchQuery

/-- A sign of one or two characters. -/
inductive Sign where
  | compare (op : Operator)
  /-- Any run of characters: `*`. -/
  | wildcard
  /-- Exactly one character: `?`. -/
  | anyChar
  /-- Between key and value: `:`. -/
  | colon
  /-- Between the ends of a range: `..`. -/
  | dots
  /-- Between the items of a list: `,`. -/
  | comma
  /-- Before the name of a field: `^`. -/
  | pin
deriving DecidableEq

/-- The sign as queries write it. -/
def Sign.symbol : Sign → String
  | .compare op => op.symbol
  | .wildcard => "*"
  | .anyChar => "?"
  | .colon => ":"
  | .dots => ".."
  | .comma => ","
  | .pin => "^"

/-- A token and the position of its first character. -/
inductive Token where
  /-- The end of the text. -/
  | endOfText (pos : Position)
  /-- A run of spaces and line breaks, kept as it stands. -/
  | space (pos : Position) (text : String)
  /-- A bare word, keywords included. -/
  | word (pos : Position) (text : String)
  /-- A text in double quotes, its escapes already resolved. -/
  | quote (pos : Position) (text : String)
  | sign (pos : Position) (sign : Sign)
  /-- The tokens between two parentheses. -/
  | group (pos : Position) (contents : List Token)

namespace Token

/-- Where the token starts. -/
def position : Token → Position
  | endOfText pos | space pos _ | word pos _ | quote pos _ | sign pos _ | group pos _ => pos

/-- The token as messages name it. -/
def describe : Token → String
  | endOfText _ => "end of input"
  | space _ _ => "space"
  | word _ text => "word `" ++ text ++ "`"
  | quote _ text => "quote " ++ Text.shown text
  | sign _ (.compare op) => "operator `" ++ op.symbol ++ "`"
  | sign _ s => "`" ++ s.symbol ++ "`"
  | group _ _ => "group"

/-- The keyword that the token spells, if it is one of the four words. -/
def keyword? : Token → Option Text.Keyword
  | word _ text => Text.Keyword.ofWord? text
  | _ => none

/-- The token as the reader of items names it: keywords by their meaning. -/
def role (t : Token) : String :=
  match t.keyword? with
  | some k => "`" ++ k.text ++ "`"
  | none => t.describe

/-- Whether the token is a space. -/
def isSpace : Token → Bool
  | space _ _ => true
  | _ => false

end Token

end SearchQuery
