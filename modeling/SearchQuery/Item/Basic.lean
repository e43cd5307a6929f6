import SearchQuery.Operator
import SearchQuery.Position
import SearchQuery.Value

/-!
# Search items

The tree that query text is read into. Each item knows where it started; positions take no part in
the equality of items, which `Item.same` decides.
-/

namespace SearchQuery

/-- A search item. -/
inductive Item where
  | null (pos : Position)
  /-- The open side of a range, which is written as nothing. -/
  | infinity (pos : Position)
  /-- Any run of characters: `*`. -/
  | wildcard (pos : Position)
  /-- Exactly one character: `?`. -/
  | anyChar (pos : Position)
  | word (pos : Position) (text : String)
  | quote (pos : Position) (text : String)
  /-- A literal whose type is known. -/
  | value (pos : Position) (value : Value)
  /-- A reference to another field: `^field`. -/
  | pin (pos : Position) (target : Item)
  /-- `key:value`. -/
  | pair (pos : Position) (key value : Item)
  /-- An operator before its operand: `>=10`. -/
  | compare (pos : Position) (op : Operator) (operand : Item)
  /-- `start..stop`, where either side may be `infinity`. -/
  | range (pos : Position) (start stop : Item)
  /-- `a,b,c`. -/
  | list (pos : Position) (items : List Item)
  /-- `( … )`. -/
  | group (pos : Position) (items : List Item)
  /-- Literals next to `*` and `?`: `jo*n`. -/
  | pattern (pos : Position) (pieces : List Item)
  /-- `left AND right…`: the right side is all that follows. -/
  | and (pos : Position) (left : Item) (right : List Item)
  /-- `left OR right…`. -/
  | or (pos : Position) (left : Item) (right : List Item)
  /-- `NOT item`. -/
  | not (pos : Position) (operand : Item)

namespace Item

instance : Inhabited Item := ⟨.null .start⟩

/-- Where the item starts. -/
def position : Item → Position
  | null pos | infinity pos | wildcard pos | anyChar pos | word pos _ | quote pos _ | value pos _
  | pin pos _ | pair pos _ _ | compare pos _ _ | range pos _ _ | list pos _ | group pos _
  | pattern pos _ | and pos _ _ | or pos _ _ | not pos _ => pos

/-- The text of a word or quote. -/
def text? : Item → Option String
  | word _ text | quote _ text => some text
  | _ => none

/-- The text of a word, quote or value, by which an item names a field. -/
def fieldName? : Item → Option String
  | word _ text | quote _ text => some text
  | value _ v => some v.text
  | _ => none

/-- Whether a cast may turn the item into a value. -/
def isLiteral (item : Item) : Bool := item.text?.isSome

/-- Whether the item carries no text of its own. -/
def isStructural : Item → Bool
  | null _ | infinity _ | wildcard _ | anyChar _ => true
  | _ => false

/-- The name of the item's sort, as messages give it. -/
def termName : Item → String
  | null _ => "null"
  | infinity _ => "infinity"
  | wildcard _ => "wildcard"
  | anyChar _ => "any_char"
  | word _ _ => "word"
  | quote _ _ => "quote"
  | value _ _ => "value"
  | pin _ _ => "pin"
  | pair _ _ _ => "pair"
  | compare _ _ _ => "cmp"
  | range _ _ _ => "range"
  | list _ _ => "list"
  | group _ _ => "group"
  | pattern _ _ => "partial"
  | and _ _ _ => "and"
  | or _ _ _ => "or"
  | not _ _ => "not"

mutual

/-- The item with every position moved to the start of the text. -/
def unplaced : Item → Item
  | null _ => null .start
  | infinity _ => infinity .start
  | wildcard _ => wildcard .start
  | anyChar _ => anyChar .start
  | word _ text => word .start text
  | quote _ text => quote .start text
  | value _ v => value .start v
  | pin _ target => pin .start target.unplaced
  | pair _ key v => pair .start key.unplaced v.unplaced
  | compare _ op operand => compare .start op operand.unplaced
  | range _ start stop => range .start start.unplaced stop.unplaced
  | list _ items => list .start (unplacedAll items)
  | group _ items => group .start (unplacedAll items)
  | pattern _ pieces => pattern .start (unplacedAll pieces)
  | and _ left right => and .start left.unplaced (unplacedAll right)
  | or _ left right => or .start left.unplaced (unplacedAll right)
  | not _ operand => not .start operand.unplaced

/-- The items with every position moved to the start of the text. -/
def unplacedAll : List Item → List Item
  | [] => []
  | item :: items => item.unplaced :: unplacedAll items

end

mutual

/-- Equality of items, positions apart. -/
def same : Item → Item → Bool
  | null _, null _ | infinity _, infinity _ | wildcard _, wildcard _ | anyChar _, anyChar _ => true
  | word _ s, word _ t | quote _ s, quote _ t => s == t
  | value _ v, value _ w => v == w
  | pin _ a, pin _ b | not _ a, not _ b => same a b
  | pair _ k v, pair _ l w => same k l && same v w
  | compare _ op a, compare _ oq b => op == oq && same a b
  | range _ s t, range _ u v => same s u && same t v
  | list _ as, list _ bs | group _ as, group _ bs | pattern _ as, pattern _ bs => sameAll as bs
  | and _ a as, and _ b bs | or _ a as, or _ b bs => same a b && sameAll as bs
  | _, _ => false

/-- Equality of lists of items, positions apart. -/
def sameAll : List Item → List Item → Bool
  | [], [] => true
  | a :: as, b :: bs => same a b && sameAll as bs
  | _, _ => false

end

end Item

end SearchQuery
