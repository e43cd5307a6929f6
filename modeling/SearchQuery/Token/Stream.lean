import SearchQuery.Token.Lexer

/-!
# Token streams

A token stream is a text that is read call by call: for the next token, or for all that are left. A
call that fails leaves the stream where it stopped, and reading may go on from there.

The stream counts the groups that are open around the place where it reads. A group counts as closed
once the reader is out of it, whether or not its contents could be read.
-/

namespace SearchQuery

/-- A text that is read call by call. -/
structure TokenStream where
  /-- The place that was reached. -/
  cursor : Cursor
  /-- How many groups are open around that place. -/
  opened : Nat

namespace TokenStream

/-- A text of which nothing was read. -/
def ofString (text : String) : TokenStream := ⟨.ofString text, 0⟩

/-- What was read, and how many groups are open after that. -/
structure Counted (α : Type) where
  scan : Scan α
  opened : Nat

/-- The stream after a reading, on success and failure alike. -/
def Counted.stream {α : Type} (read : Counted α) : TokenStream := ⟨read.scan.next, read.opened⟩

/-- Reads one token. A group is open while `contents` reads what is inside. -/
def nextWith (limit : Nat) (contents : TokenStream → Counted (List Token)) (s : TokenStream) :
    Counted (Option Token) :=
  if s.cursor.rest.head? = some '(' ∧ s.opened < limit then
    let inner := contents ⟨s.cursor.advance 1, s.opened + 1⟩
    ⟨Lexer.nextWith limit (some fun _ => inner.scan) s.cursor, inner.opened - 1⟩
  else ⟨Lexer.nextWith limit none s.cursor, s.opened⟩

/-- Reads at most `fuel` tokens. -/
def tokensWith (limit : Nat) : (fuel : Nat) → TokenStream → Counted (List Token)
  | 0, s => ⟨.ok [] s.cursor, s.opened⟩
  | fuel + 1, s =>
    let first := nextWith limit (tokensWith limit fuel) s
    match first.scan with
    | .error e next => ⟨.error e next, first.opened⟩
    | .ok none next | .ok (some (.endOfText _)) next => ⟨.ok [] next, first.opened⟩
    | .ok (some token) next =>
      let others := tokensWith limit fuel ⟨next, first.opened⟩
      ⟨others.scan.map (token :: ·), others.opened⟩

/-- What a stream may be called for: the next token, or all that are left. -/
inductive Call where
  | next
  | all
deriving DecidableEq

/-- What a call gives. There is no token where the next character starts none. -/
inductive Answer where
  | token (token : Option Token)
  | tokens (tokens : List Token)

/-- Answers a call. -/
def answer (limit : Nat) (s : TokenStream) : Call → Counted Answer
  | .next =>
    let read := nextWith limit (tokensWith limit s.cursor.rest.length) s
    ⟨read.scan.map .token, read.opened⟩
  | .all =>
    let read := tokensWith limit s.cursor.rest.length s
    ⟨read.scan.map .tokens, read.opened⟩

/-- The stream after a number of calls, some of which may have failed. -/
def after (limit : Nat) (calls : List Call) (s : TokenStream) : TokenStream :=
  calls.foldl (fun s call => (s.answer limit call).stream) s

end TokenStream

end SearchQuery
