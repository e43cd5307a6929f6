import SearchQuery.Document.Compare
import SearchQuery.Document.Glob
import SearchQuery.Document.Lookup

/-!
# Tests

A test is put to one slot of a document, which may be empty. A test of a value passes an array if
some element passes.
-/

namespace SearchQuery

/-- The right side of a comparison. -/
inductive Operand where
  | literal (json : Json)
  /-- Another field of the same document. -/
  | field (path : String)

/-- The value of an operand in a document; a field without one, or over null, has none. -/
def Operand.resolve? (doc : Json) : Operand → Option Json
  | literal json => some json
  | field path => (doc.lookup? path).filter fun json => !json.isNull

/-- A condition on a slot. -/
inductive Test where
  | present
  | missing
  | compare (op : Operator) (operand : Operand)
  /-- An inclusive range, of which either side may be open. -/
  | between (low high : Option Operand)
  | glob (pieces : List GlobPiece)
  | all (tests : List Test)
  | any (tests : List Test)
  | not (test : Test)

namespace Test

instance : Inhabited Test := ⟨.present⟩

/-- Whether a value lies on the right side of a bound. -/
def meets (doc : Json) (op : Operator) (value : Json) : Option Operand → Bool
  | none => true
  | some operand =>
    (((operand.resolve? doc).bind value.order?).map op.admits).getD false

/-- Whether an operator holds between a value and an operand. -/
def comparison (doc : Json) (op : Operator) (operand : Operand) (value : Json) : Bool :=
  ((operand.resolve? doc).map (op.holds value)).getD false

/-- Whether the text of a value matches a glob. -/
def fits (pieces : List GlobPiece) (value : Json) : Bool :=
  (value.scalarText?.map fun text => Glob.isMatch pieces text.toList).getD false

mutual

/-- Whether a slot of a document passes a test. -/
def passes (doc : Json) (slot : Option Json) : Test → Bool
  | present => slot.any fun json => !json.isNull
  | missing => slot.all Json.isNull
  | compare op operand => (Json.slotValues slot).any (comparison doc op operand)
  | between low high =>
    (Json.slotValues slot).any fun json => meets doc .gte json low && meets doc .lte json high
  | glob pieces => (Json.slotValues slot).any (fits pieces)
  | all tests => passesAll doc slot tests
  | any tests => passesAny doc slot tests
  | not test => !passes doc slot test

/-- Whether a slot passes each of several tests. -/
def passesAll (doc : Json) (slot : Option Json) : List Test → Bool
  | [] => true
  | test :: tests => passes doc slot test && passesAll doc slot tests

/-- Whether a slot passes one of several tests. -/
def passesAny (doc : Json) (slot : Option Json) : List Test → Bool
  | [] => false
  | test :: tests => passes doc slot test || passesAny doc slot tests

end

/-- The conjunction of tests; a single one stands for itself. -/
def conjunction : List Test → Test
  | [test] => test
  | tests => all tests

end Test

end SearchQuery
