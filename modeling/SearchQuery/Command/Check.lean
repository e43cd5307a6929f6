import SearchQuery.Command.Error
import SearchQuery.Json.Reader
import SearchQuery.Query
import SearchQuery.Schema.Bounds

/-!
# Checking documents

`Command.check` finds the documents of a JSON input that match a query. The query is read, cast by
the schema if there is one, and only then is the input looked at.
-/

namespace SearchQuery.Command

/-- How to check. -/
structure CheckOptions where
  schema : Option Schema
  /-- The moment around which relative moments are placed. -/
  now : DateTime
  limit : Nat
  /-- The query is not matched with anything. -/
  syntaxOnly : Bool

/-- What a check finds. -/
inductive CheckResult where
  | valid
  | output (json : Json)

/-- Reads the present moment as it is given. -/
def readNow (raw : String) : Except CommandError DateTime :=
  (Calendar.readRfc3339? raw).elim (.error (.invalidNow raw)) .ok

/-- A query cast by a schema, with bounds in place of its spans. -/
def applySchema (now : DateTime) (schema : Schema) (items : List Item) :
    Except TransformError (List Item) := do
  schema.resolveItems (← schema.castItems now items)

/-- What a matcher leaves of an input: those documents of an array that match, and any other input
itself or null. -/
def matching (matcher : Matcher) : Json → Json
  | .array docs => .array (matcher.select docs)
  | doc => if matcher.accepts doc then doc else .null

/-- Finds the documents of a JSON input that match a query. -/
def check (options : CheckOptions) (query : String) (input : Option String) :
    Except CommandError CheckResult := do
  let parsed ← (Query.parse options.limit query).mapError .parse
  let items ← match options.schema with
    | some schema => (applySchema options.now schema parsed).mapError .transform
    | none => .ok parsed
  if options.syntaxOnly then return .valid
  let text ← input.elim (.error .noInput) .ok
  let doc ← (Json.readDocument? text).elim (.error .json) .ok
  let matcher ← (Matcher.ofItems items).mapError .evaluation
  return .output (matching matcher doc)

end SearchQuery.Command
