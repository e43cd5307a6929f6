import SearchQuery.Item.Basic
import SearchQuery.Text.Word

/-!
# Query lists

A query list is a query as plain data: one entry per top-level item, with an optional key, an
optional operator and a value. Text stands for a word if it is a bare word and for a quote
otherwise; a quote whose text is a bare word is marked. Keywords that combine items have no form
here, and pairs and operators have one only at the top.
-/

namespace SearchQuery

/-- The operator of an entry: a comparison, or membership in a list. -/
inductive QueryOp where
  | compare (op : Operator)
  | member
deriving DecidableEq

/-- The key of an entry. -/
inductive QueryKey where
  | text (s : String)
  /-- A quoted key, told apart from a bare word of the same text. -/
  | quote (s : String)
deriving DecidableEq

/-- The value of an entry. -/
inductive QueryValue where
  | null
  | bool (b : Bool)
  | integer (n : Int64)
  | float (x : Float)
  | text (s : String)
  | list (values : List QueryValue)
  | pattern (pieces : List QueryValue)
  | wildcard (b : Bool)
  | anyChar (b : Bool)
  | infinity (b : Bool)
  | range (start stop : QueryValue)
  /-- A quote, told apart from a bare word of the same text. -/
  | quote (s : String)
  | pin (field : String)
  | group (values : List QueryValue)

/-- An entry of a query list. -/
structure QueryItem where
  key : Option QueryKey
  op : Option QueryOp
  value : QueryValue

/-- Why items and query lists do not match. -/
inductive QueryListError where
  /-- Items of this sort have no form in query lists. -/
  | unsupported (term : String)
  /-- The entry stands for no item. -/
  | invalid (reason : String)
  /-- The text is no query list. -/
  | json
deriving DecidableEq

/-- The error as it is reported. What is wrong with a JSON text is left to its reader. -/
def QueryListError.message : QueryListError → String
  | .unsupported term => term ++ " items have no query-list form"
  | .invalid reason => "invalid query item: " ++ reason
  | .json => "invalid query list JSON: "

namespace QueryValue

mutual

/-- Equality of values. -/
def same : QueryValue → QueryValue → Bool
  | null, null => true
  | bool a, bool b | wildcard a, wildcard b | anyChar a, anyChar b
  | infinity a, infinity b => a == b
  | integer m, integer n => m == n
  | float x, float y => x == y
  | text s, text t | quote s, quote t | pin s, pin t => s == t
  | list vs, list ws | pattern vs, pattern ws | group vs, group ws => sameAll vs ws
  | range a b, range c d => same a c && same b d
  | _, _ => false

/-- Equality of lists of values. -/
def sameAll : List QueryValue → List QueryValue → Bool
  | [], [] => true
  | v :: vs, w :: ws => same v w && sameAll vs ws
  | _, _ => false

end

/-! ## From items -/

/-- The value of a word, quote or other text: marked if it is quoted although it is a bare word. -/
def ofQuote (s : String) : QueryValue := if Text.isBareWord s then quote s else text s

/-- The value of a typed literal. -/
def ofValue : Value → QueryValue
  | .boolean b => bool b
  | .integer n => integer n
  | .float x => float x
  | v => text v.text

mutual

/-- The value of an item that is no pair, comparison or combination. -/
def ofItem : Item → Except QueryListError QueryValue
  | .null _ => .ok null
  | .infinity _ => .ok (infinity true)
  | .wildcard _ => .ok (wildcard true)
  | .anyChar _ => .ok (anyChar true)
  | .word _ s => .ok (text s)
  | .quote _ s => .ok (ofQuote s)
  | .value _ v => .ok (ofValue v)
  | .pin _ target =>
    match target.fieldName? with
    | some name => .ok (pin name)
    | none => .error (.unsupported "pin")
  | .range _ start stop => do return range (← ofItem start) (← ofItem stop)
  | .list _ items => do return list (← ofItems items)
  | .group _ items => do return group (← ofItems items)
  | .pattern _ pieces => do return pattern (← ofItems pieces)
  | .pair _ _ _ => .error (.unsupported "pair")
  | .compare _ _ _ => .error (.unsupported "cmp")
  | .and _ _ _ => .error (.unsupported "and")
  | .or _ _ _ => .error (.unsupported "or")
  | .not _ _ => .error (.unsupported "not")

/-- The values of items. -/
def ofItems : List Item → Except QueryListError (List QueryValue)
  | [] => .ok []
  | item :: items => do return (← ofItem item) :: (← ofItems items)

end

/-! ## To items -/

/-- The item of a text: a word if it is one, and a quote otherwise. -/
def textItem (s : String) : Item :=
  if Text.isBareWord s then .word .start s else .quote .start s

mutual

/-- The item that a value stands for. -/
def toItem : QueryValue → Item
  | null => .null .start
  | bool b => .value .start (.boolean b)
  | integer n => .value .start (.integer n)
  | float x => .value .start (.float x)
  | text s => textItem s
  | list values => .list .start (toItems values)
  | pattern pieces => .pattern .start (toItems pieces)
  | wildcard _ => .wildcard .start
  | anyChar _ => .anyChar .start
  | infinity _ => .infinity .start
  | range start stop => .range .start start.toItem stop.toItem
  | quote s => .quote .start s
  | pin field => .pin .start (textItem field)
  | group values => .group .start (toItems values)

/-- The items that values stand for. -/
def toItems : List QueryValue → List Item
  | [] => []
  | value :: values => value.toItem :: toItems values

end

end QueryValue

namespace QueryItem

/-- Equality of entries. -/
def same (a b : QueryItem) : Bool :=
  a.key == b.key && a.op == b.op && QueryValue.same a.value b.value

/-- The key of a pair. -/
def keyOf : Item → Except QueryListError QueryKey
  | .word _ s => .ok (.text s)
  | .quote _ s => .ok (if Text.isBareWord s then .quote s else .text s)
  | .value _ v => .ok (.text v.text)
  | item => .error (.unsupported item.termName)

/-- The operator and the value of an item that is no pair. -/
def termOf : Item → Except QueryListError (Option QueryOp × QueryValue)
  | .compare _ op operand => do return (some (.compare op), ← QueryValue.ofItem operand)
  | .list pos items => do return (some .member, ← QueryValue.ofItem (.list pos items))
  | item => do return (none, ← QueryValue.ofItem item)

/-- The entry of an item. -/
def ofItem : Item → Except QueryListError QueryItem
  | .pair _ key value => do
    let key ← keyOf key
    let (op, value) ← termOf value
    return ⟨some key, op, value⟩
  | item => do
    let (op, value) ← termOf item
    return ⟨none, op, value⟩

/-- The item of an operator and a value. -/
def term : Option QueryOp → QueryValue → Except QueryListError Item
  | some (.compare op), value => .ok (.compare .start op value.toItem)
  | some .member, .list values => .ok (QueryValue.list values).toItem
  | some .member, _ => .error (.invalid "`in` needs a list value")
  | none, value => .ok value.toItem

/-- The item of an entry. -/
def toItem (entry : QueryItem) : Except QueryListError Item := do
  let item ← term entry.op entry.value
  match entry.key with
  | some (.text key) => return .pair .start (QueryValue.textItem key) item
  | some (.quote key) => return .pair .start (.quote .start key) item
  | none => return item

end QueryItem

namespace QueryList

/-- The query list of items. -/
def ofItems (items : List Item) : Except QueryListError (List QueryItem) :=
  items.mapM QueryItem.ofItem

/-- The items of a query list. -/
def toItems (list : List QueryItem) : Except QueryListError (List Item) :=
  list.mapM QueryItem.toItem

end QueryList

end SearchQuery
