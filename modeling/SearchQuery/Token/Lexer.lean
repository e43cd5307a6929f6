import SearchQuery.Token.Basic
import SearchQuery.Token.Cursor

/-!
# Reading tokens

`Lexer.next` reads one token at a cursor and `Lexer.tokens` reads as many as there are. Both stop
before a character that no token starts with, such as a stray `)`. Groups nest at most `limit`
deep.

A failure keeps the place at which reading stopped, so that a reader may go on from there. The
tokens left to read are never more than the characters left, which bounds the recursion.
-/

namespace SearchQuery

/-- Why no token could be read. Each cause carries the text that was not used up. -/
inductive LexError where
  /-- A quote without its closing quote; `found` is the text so far. -/
  | unterminatedQuote (pos : Position) (found : String) (remainder : String)
  /-- An escape that names no character. -/
  | invalidEscape (pos : Position) (escape : String) (remainder : String)
  /-- A group without its closing parenthesis. -/
  | unterminatedGroup (pos : Position) (contents : List Token) (remainder : String)
  /-- A group inside `limit` others. -/
  | tooDeep (pos : Position) (limit : Nat)

namespace LexError

/-- Where the reader found the fault. -/
def position : LexError → Position
  | unterminatedQuote pos _ _ | invalidEscape pos _ _ | unterminatedGroup pos _ _
  | tooDeep pos _ => pos

/-- The error as it is reported. -/
def message : LexError → String
  | unterminatedQuote pos _ _ => "unterminated quote starting at " ++ pos.text
  | invalidEscape pos escape _ => "invalid unicode escape `" ++ escape ++ "` at " ++ pos.text
  | unterminatedGroup pos _ _ => "unterminated group starting at " ++ pos.text
  | tooDeep pos limit =>
    "groups nested deeper than " ++ toString limit ++ " levels at " ++ pos.text

end LexError

/-- The outcome of reading at a cursor: a value or an error, and the place that was reached. -/
inductive Scan (α : Type) where
  | ok (value : α) (next : Cursor)
  | error (error : LexError) (next : Cursor)

namespace Scan

/-- The place that was reached, on success and failure alike. -/
def next {α : Type} : Scan α → Cursor
  | ok _ next | error _ next => next

/-- The outcome with its value changed. -/
def map {α β : Type} (f : α → β) : Scan α → Scan β
  | ok a next => ok (f a) next
  | error e next => error e next

end Scan

namespace Lexer

/-- The sign at the front of a text; of two that fit, the longer. -/
def sign? : List Char → Option Sign
  | '>' :: '=' :: _ => some (.compare .gte)
  | '<' :: '=' :: _ => some (.compare .lte)
  | '!' :: '~' :: _ => some (.compare .nfuzz)
  | '>' :: _ => some (.compare .gt)
  | '<' :: _ => some (.compare .lt)
  | '!' :: _ => some (.compare .neq)
  | '=' :: _ => some (.compare .eq)
  | '~' :: _ => some (.compare .fuzz)
  | '*' :: _ => some .wildcard
  | '?' :: _ => some .anyChar
  | ':' :: _ => some .colon
  | '.' :: '.' :: _ => some .dots
  | ',' :: _ => some .comma
  | '^' :: _ => some .pin
  | _ => none

/-- Reads the quoted text whose opening quote is at `cur`. -/
def readQuote (cur : Cursor) : Scan Token :=
  match Text.Escape.readQuote cur.rest.tail with
  | .closed text used => .ok (.quote cur.position (String.ofList text)) (cur.advance (used + 1))
  | .unterminated text used =>
    .error (.unterminatedQuote cur.position (String.ofList text) cur.remainder)
      (cur.advance (used + 1))
  | .badCode start used =>
    let escape := cur.advance (start + 1)
    .error (.invalidEscape escape.position (String.ofList (escape.rest.take (used - start + 1)))
      escape.remainder) (cur.advance (used + 1))

/-- Reads the group whose opening parenthesis is at `cur`; `contents` reads what is inside, and
is absent where no group may start. -/
def readGroup (limit : Nat) (contents : Option (Cursor → Scan (List Token))) (cur : Cursor) :
    Scan Token :=
  match contents with
  | none => .error (.tooDeep cur.position limit) cur
  | some contents =>
    match contents (cur.advance 1) with
    | .error e next => .error e next
    | .ok tokens next =>
      match next.rest with
      | ')' :: _ => .ok (.group cur.position tokens) (next.advance 1)
      | _ => .error (.unterminatedGroup cur.position tokens cur.remainder) next

/-- Reads one token; `none` if no token starts at `cur`. -/
def nextWith (limit : Nat) (contents : Option (Cursor → Scan (List Token))) (cur : Cursor) :
    Scan (Option Token) :=
  match cur.rest with
  | [] => .ok (some (.endOfText cur.position)) cur
  | c :: _ =>
    if Text.isBlank c then
      let text := cur.rest.takeWhile Text.isBlank
      .ok (some (.space cur.position (String.ofList text))) (cur.advance text.length)
    else if c = '"' then (readQuote cur).map some
    else if c = '(' then (readGroup limit contents cur).map some
    else
      match sign? cur.rest with
      | some sign => .ok (some (.sign cur.position sign)) (cur.advance sign.symbol.length)
      | none =>
        match Text.leadingWord cur.rest with
        | [] => .ok none cur
        | text => .ok (some (.word cur.position (String.ofList text))) (cur.advance text.length)

/-- Reads at most `fuel` tokens, with groups up to `levels` deep among them. -/
def tokensWith (limit : Nat) : (fuel levels : Nat) → Cursor → Scan (List Token)
  | 0, _, cur => .ok [] cur
  | fuel + 1, levels, cur =>
    let contents := match levels with
      | 0 => none
      | levels + 1 => some (tokensWith limit fuel levels)
    match nextWith limit contents cur with
    | .error e next => .error e next
    | .ok none next | .ok (some (.endOfText _)) next => .ok [] next
    | .ok (some token) next => (tokensWith limit fuel levels next).map (token :: ·)

/-- Reads tokens up to the end of the text or to a character that starts none. -/
def tokens (limit : Nat) (cur : Cursor) : Scan (List Token) :=
  tokensWith limit cur.rest.length limit cur

/-- Reads one token: the end of the text counts as one, and `none` means that the next character
starts none. -/
def next (limit : Nat) (cur : Cursor) : Scan (Option Token) :=
  let contents := match limit with
    | 0 => none
    | levels + 1 => some (tokensWith limit cur.rest.length levels)
  nextWith limit contents cur

end Lexer

/-- A text cut into tokens as far as that goes. -/
structure Tokenized where
  tokens : List Token
  /-- Where reading stopped. -/
  position : Position
  /-- The text from there on. -/
  remainder : String

/-- Cuts a text into tokens, with groups nested at most `limit` deep. -/
def tokenize (limit : Nat) (text : String) : Except LexError Tokenized :=
  match Lexer.tokens limit (.ofString text) with
  | .error e _ => .error e
  | .ok tokens next => .ok ⟨tokens, next.position, next.remainder⟩

end SearchQuery
