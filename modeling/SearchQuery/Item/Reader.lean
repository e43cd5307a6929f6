import SearchQuery.Item.Part

/-!
# Reading items

Items are read from tokens from left to right. A value ends at a space; a pair takes the item
right after its colon; a range or a list goes on from a value. Groups and pairs with a value nest
one level each, and so do the keywords of a sequence, which are counted before it is read.

The readers of a level take what they need of the level below as arguments: `Inside` holds them,
and is absent on the lowest level. No sequence has more parts than tokens, which bounds the loops.
-/

namespace SearchQuery.Item

/-- An item and the tokens after it, or why there is none. -/
abbrev Reading := Except ParseError (Item × List Token)

/-- The readers of the next level. -/
structure Inside where
  /-- Reads the value of a pair. -/
  item : List Token → Reading
  /-- Reads the contents of a group. -/
  items : List Token → Except ParseError (List Item)

/-! ## Single tokens -/

/-- A word or quote that may name a field. Keywords name none. -/
def name? : Token → Option Item
  | .word pos text => if (Text.Keyword.ofWord? text).isNone then some (.word pos text) else none
  | .quote pos text => some (.quote pos text)
  | _ => none

/-- A token that may stand next to others of its sort in one value. -/
def piece? : Token → Option Item
  | .sign pos .wildcard => some (.wildcard pos)
  | .sign pos .anyChar => some (.anyChar pos)
  | token => name? token

/-- A keyword that combines items. -/
def connective? (token : Token) : Option Part :=
  match token.keyword? with
  | some .and => some (.and token.position)
  | some .or => some (.or token.position)
  | some .not => some (.not token.position)
  | _ => none

/-- The pieces at the front of the tokens, and the tokens after them. -/
def pieces : List Token → List Item × List Token
  | [] => ([], [])
  | token :: rest =>
    match piece? token with
    | none => ([], token :: rest)
    | some piece => ((piece :: (pieces rest).1), (pieces rest).2)

/-! ## Values -/

/-- Reads what a pin refers to. -/
def readTarget (pin : Token) : List Token → Reading
  | [] => .error (.missingValue pin.role pin.position)
  | target :: rest =>
    match name? target with
    | some name => .ok (.pin pin.position name, rest)
    | none => .error (.noValue target.role target.position)

/-- Reads a group with given contents. -/
def readGroup (limit : Nat) (inside : Option Inside) (pos : Position) (contents : List Token) :
    Except ParseError Item :=
  match inside with
  | none => .error (.tooDeep limit pos)
  | some inside => (inside.items contents).map (.group pos)

/-- Reads a value: pieces, a pin, `NULL` or a group. There is none at a space or at the end. -/
def readValue (limit : Nat) (inside : Option Inside) (tokens : List Token) :
    Except ParseError (Option (Item × List Token)) :=
  match tokens with
  | [] => .ok none
  | first :: rest =>
    match pieces tokens with
    | ([piece], rest) => .ok (some (piece, rest))
    | (piece :: others, rest) => .ok (some (.pattern first.position (piece :: others), rest))
    | ([], _) =>
      match first with
      | .space _ _ => .ok none
      | .group pos contents =>
        (readGroup limit inside pos contents).map fun group => some (group, rest)
      | .sign _ .pin => (readTarget first rest).map some
      | _ =>
        if first.keyword? = some .null then .ok (some (.null first.position, rest))
        else .error (.noValue first.role first.position)

/-- Reads a value that has to follow the token `after`. -/
def requireValue (limit : Nat) (inside : Option Inside) (after : Token) (tokens : List Token) :
    Reading :=
  match readValue limit inside tokens with
  | .error e => .error e
  | .ok none => .error (.missingValue after.role after.position)
  | .ok (some found) => .ok found

/-! ## Ranges and lists -/

/-- Reads the end of a range, which may be left open. -/
def readStop (limit : Nat) (inside : Option Inside) (pos : Position) (start : Item)
    (tokens : List Token) : Reading :=
  match readValue limit inside tokens with
  | .error e => .error e
  | .ok none => .ok (.range pos start (.infinity .start), tokens)
  | .ok (some (stop, rest)) => .ok (.range pos start stop, rest)

/-- Reads values between commas, at most `fuel` of them. The last may be missing. -/
def readValues (limit : Nat) (inside : Option Inside) :
    (fuel : Nat) → List Token → Except ParseError (List Item × List Token)
  | 0, tokens => .ok ([], tokens)
  | fuel + 1, tokens =>
    match readValue limit inside tokens with
    | .error e => .error e
    | .ok none => .ok ([], tokens)
    | .ok (some (item, .sign _ .comma :: rest)) =>
      (readValues limit inside fuel rest).map fun (items, rest) => (item :: items, rest)
    | .ok (some (item, rest)) => .ok ([item], rest)

/-- Reads what may follow a value: the rest of a range or of a list. -/
def readSuffix (limit : Nat) (inside : Option Inside) (first : Item) (tokens : List Token) :
    Reading :=
  match tokens with
  | .sign _ .dots :: rest => readStop limit inside first.position first rest
  | .sign _ .comma :: rest =>
    (readValues limit inside rest.length rest).map fun (items, rest) =>
      (.list first.position (first :: items), rest)
  | _ => .ok (first, tokens)

/-! ## Items -/

/-- Reads the value of a pair, which is `NULL` where nothing follows the colon. -/
def readPair (limit : Nat) (inside : Option Inside) (key : Item) (tokens : List Token) : Reading :=
  let empty := match tokens with
    | [] => true
    | first :: _ => first.isSpace
  if empty then .ok (.pair key.position key (.null key.position), tokens)
  else
    match inside with
    | none => .error (.tooDeep limit key.position)
    | some inside =>
      (inside.item tokens).map fun (item, rest) => (.pair key.position key item, rest)

/-- Reads one item. -/
def readItem (limit : Nat) (inside : Option Inside) (tokens : List Token) : Reading :=
  match tokens with
  | [] => .error (.missingValue "end of input" .start)
  | first :: rest =>
    match first with
    | .group pos contents => (readGroup limit inside pos contents).map fun group => (group, rest)
    | .sign pos (.compare op) =>
      (requireValue limit inside first rest).map fun (operand, rest) =>
        (.compare pos op operand, rest)
    | .sign pos .dots => readStop limit inside pos (.infinity .start) rest
    | _ =>
      match name? first, rest with
      | some key, .sign _ .colon :: rest => readPair limit inside key rest
      | _, _ =>
        match requireValue limit inside first tokens with
        | .error e => .error e
        | .ok (item, rest) => readSuffix limit inside item rest

/-- Reads at most `fuel` parts of a sequence. -/
def readParts (item : List Token → Reading) :
    (fuel : Nat) → List Token → Except ParseError (List Part)
  | 0, _ => .ok []
  | _ + 1, [] => .ok []
  | fuel + 1, first :: rest =>
    if first.isSpace then readParts item fuel rest
    else
      match connective? first with
      | some part => (readParts item fuel rest).map (part :: ·)
      | none =>
        match item (first :: rest) with
        | .error e => .error e
        | .ok (found, rest) => (readParts item fuel rest).map (.item found :: ·)

/-- Reads a sequence with `levels` levels left. Each keyword takes one; the readers of items get
the rest. -/
def readSequence (limit : Nat) (item : Nat → List Token → Reading) (levels : Nat)
    (tokens : List Token) : Except ParseError (List Item) :=
  let connectives := tokens.filter fun token => (connective? token).isSome
  match connectives[levels]? with
  | some token => .error (.tooDeep limit token.position)
  | none =>
    match readParts (item (levels - connectives.length)) tokens.length tokens with
    | .error e => .error e
    | .ok parts => Part.combine parts

/-- Reads one item with `levels` levels left, of which `fuel` is a bound. -/
def readAt (limit : Nat) : (fuel levels : Nat) → List Token → Reading
  | fuel + 1, levels + 1, tokens =>
    readItem limit
      (some ⟨readAt limit fuel levels, readSequence limit (readAt limit fuel) levels⟩) tokens
  | _, _, tokens => readItem limit none tokens

/-- Reads items nested at most `limit` deep. -/
def ofTokens (limit : Nat) (tokens : List Token) : Except ParseError (List Item) :=
  readSequence limit (readAt limit limit) limit tokens

end SearchQuery.Item
