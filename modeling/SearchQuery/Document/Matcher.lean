import SearchQuery.Document.GlobSize
import SearchQuery.Document.Test
import SearchQuery.Predicate

/-!
# Matchers

A query compiles into a matcher, which is then run on documents. A pair tests the field that its key
names, and any other term passes if some leaf of the document passes. A negative operator denies the
test of its positive one, so that it holds of a missing field too.
-/

namespace SearchQuery

/-- A compiled query. -/
inductive Matcher where
  | all (matchers : List Matcher)
  | any (matchers : List Matcher)
  | not (matcher : Matcher)
  | field (path : String) (test : Test)
  /-- Passes if some leaf of the document passes. -/
  | anyField (test : Test)

/-- Why a query has no matcher. -/
inductive MatchError where
  /-- A term that means nothing for a field. The field of a free term has no name. -/
  | unsupported (field term : String)
  /-- A glob is larger than globs may be. -/
  | globTooLarge
deriving DecidableEq

/-- The error as it is reported. -/
def MatchError.message : MatchError → String
  | unsupported field term => "cannot match " ++ term ++ " terms against field `" ++ field ++ "`"
  | globTooLarge =>
    "invalid pattern: Compiled regex exceeds size limit of " ++ Number.digits Glob.maxSize ++
      " bytes."

/-! ## Compiling -/

/-- The JSON value that a typed literal compares as. -/
def Value.json : Value → Json
  | .boolean b => .bool b
  | .integer n => .number (.integer n.toInt)
  | .float x => Json.ofFloat x
  | .decimal d => Json.ofFloat d.toFloat
  | v => .string v.text

/-- A test of an operator, which is denied if the operator is negative. -/
def Operator.testBy (op : Operator) (test : Test) : Test :=
  if op.isNegative then .not test else test

namespace Test

/-- The bound of a typed literal as an operand. -/
def boundOf? (v : Value) (bound : Bound) : Option Operand :=
  (v.resolve? bound).map fun v => .literal v.json

/-- The test that a value is in some relation to a span: an ordering compares with one bound, and
any other operator asks for a moment within the span. -/
def ofSpan (op : Operator) (v : Value) : Test :=
  match op.bound? with
  | some bound => ((boundOf? v bound).map (compare op)).getD missing
  | none => between (boundOf? v .first) (boundOf? v .last)

/-- The side of a range as an operand. A side without a text is open. -/
def ofSide? (bound : Bound) : Item → Option Operand
  | .word _ text | .quote _ text => some (.literal (.string text))
  | .value _ v => boundOf? v bound
  | .pin _ target => some (.field (target.fieldName?.getD ""))
  | _ => none

/-- The test of a glob, unless it is too large. -/
def ofGlob (pieces : List GlobPiece) : Except MatchError Test :=
  if Glob.maxSize < Glob.size pieces then .error .globTooLarge else .ok (glob pieces)

mutual

/-- The test that a slot of a field is in relation `op` to an item. -/
def ofItem (field : String) (op : Operator) (item : Item) : Except MatchError Test :=
  op.testBy <$> match item with
    | .null _ => .ok missing
    | .wildcard _ | .infinity _ => .ok present
    | .anyChar pos => ofGlob (Glob.ofItem (.anyChar pos))
    | .pattern _ pieces => ofGlob (Glob.ofItems pieces)
    | .word _ text | .quote _ text => .ok (compare op.positive (.literal (.string text)))
    | .value _ v =>
      if v.isPartial then .ok (ofSpan op.positive v)
      else .ok (compare op.positive (.literal v.json))
    | .pin _ target => .ok (compare op.positive (.field (target.fieldName?.getD "")))
    | .compare _ inner operand =>
      if op.positive = .eq then ofItem field inner operand
      else .error (.unsupported field "nested comparison")
    | .range _ start stop => .ok (between (ofSide? .first start) (ofSide? .last stop))
    | .list _ items => any <$> ofItems field op.positive items
    | .group _ items => conjunction <$> ofItems field op.positive items
    | .and _ left right => do
      return all [← ofItem field op.positive left, all (← ofItems field op.positive right)]
    | .or _ left right => do
      return any [← ofItem field op.positive left, all (← ofItems field op.positive right)]
    | .not _ operand => not <$> ofItem field op.positive operand
    | .pair _ _ _ => .error (.unsupported field "pair")

/-- The tests of several items. -/
def ofItems (field : String) (op : Operator) : List Item → Except MatchError (List Test)
  | [] => .ok []
  | item :: items => do return (← ofItem field op item) :: (← ofItems field op items)

end

end Test

namespace Matcher

/-- The relation in which a free term is to a leaf: literals are sought inside it. -/
def termOperator : Item → Operator
  | .word _ _ | .quote _ _ | .value _ _ => .fuzz
  | _ => .eq

/-- The conjunction of matchers; a single one stands for itself. -/
def conjunction : List Matcher → Matcher
  | [matcher] => matcher
  | matchers => all matchers

/-- How queries are stated as matchers. -/
def builder : PredicateBuilder Matcher MatchError where
  pair path value := (Test.ofItem path .eq value).map (field path)
  term item := (Test.ofItem "" (termOperator item) item).map anyField
  all := conjunction
  any := any
  negate := not

/-- Compiles a query. -/
def ofItems (items : List Item) : Except MatchError Matcher := builder.build items

/-! ## Matching -/

mutual

/-- Whether a document matches. -/
def accepts (doc : Json) : Matcher → Bool
  | all matchers => acceptsAll doc matchers
  | any matchers => acceptsAny doc matchers
  | not matcher => !accepts doc matcher
  | field path test => test.passes doc (doc.lookup? path)
  | anyField test => doc.leaves.any fun leaf => test.passes doc (some leaf)

/-- Whether a document matches each of several matchers. -/
def acceptsAll (doc : Json) : List Matcher → Bool
  | [] => true
  | matcher :: matchers => accepts doc matcher && acceptsAll doc matchers

/-- Whether a document matches one of several matchers. -/
def acceptsAny (doc : Json) : List Matcher → Bool
  | [] => false
  | matcher :: matchers => accepts doc matcher || acceptsAny doc matchers

end

/-- The documents that match, in order. -/
def select (matcher : Matcher) (docs : List Json) : List Json :=
  docs.filter fun doc => matcher.accepts doc

end Matcher

end SearchQuery
