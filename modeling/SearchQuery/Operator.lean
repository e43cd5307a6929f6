/-!
# Comparison operators

The operators that may stand before a value: four orderings, equality and substring search, the
last two also negated.
-/

namespace SearchQuery

/-- A comparison operator. -/
inductive Operator where
  | gt | gte | lt | lte | eq | neq
  /-- Contains, without regard to letter case. -/
  | fuzz
  /-- Does not contain. -/
  | nfuzz
deriving DecidableEq

namespace Operator

/-- Every operator, in the order in which tables list them. -/
def all : List Operator := [.gt, .gte, .lt, .lte, .eq, .neq, .fuzz, .nfuzz]

/-- The operator as queries write it. -/
def symbol : Operator → String
  | .gt => ">"
  | .gte => ">="
  | .lt => "<"
  | .lte => "<="
  | .eq => "="
  | .neq => "!"
  | .fuzz => "~"
  | .nfuzz => "!~"

/-- The operator's name, as query lists write it. -/
def name : Operator → String
  | .gt => "gt"
  | .gte => "gte"
  | .lt => "lt"
  | .lte => "lte"
  | .eq => "eq"
  | .neq => "neq"
  | .fuzz => "fuzz"
  | .nfuzz => "nfuzz"

/-- The operator with a given name. -/
def ofName? (name : String) : Option Operator := all.find? (·.name == name)

/-- The operators that deny what another one asserts. -/
def isNegative : Operator → Bool
  | .neq | .nfuzz => true
  | _ => false

/-- The operator that a negative one denies; any other operator itself. -/
def positive : Operator → Operator
  | .neq => .eq
  | .nfuzz => .fuzz
  | op => op

theorem mem_all (op : Operator) : op ∈ all := by cases op <;> decide

@[simp] theorem ofName?_name (op : Operator) : ofName? op.name = some op := by
  cases op <;> decide

@[simp] theorem isNegative_positive (op : Operator) : op.positive.isNegative = false := by
  cases op <;> rfl

end Operator

end SearchQuery
