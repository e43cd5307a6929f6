import SearchQuery.Command.Error
import SearchQuery.Manual.Basic
import SearchQuery.Query
import SearchQuery.QueryList.Json

/-!
# Converting queries

The commands that turn queries into query lists and back, write them in canonical form, and look up
the manual.
-/

namespace SearchQuery.Command

/-- A query as a JSON query list. -/
def decode (limit : Nat) (query : String) : Except CommandError Json := do
  let items ← (Query.parse limit query).mapError .parse
  return QueryList.toJson (← (QueryList.ofItems items).mapError .queryList)

/-- A JSON query list as a query. -/
def encode (text : String) : Except CommandError String :=
  (do Query.print <$> QueryList.toItems (← QueryList.read text)).mapError .queryList

/-- A query in canonical form. -/
def format (limit : Nat) (query : String) : Except CommandError String :=
  (Query.format limit query).mapError .parse

/-- The page of the manual that a name stands for. -/
def manualPage (name : String) : Except CommandError String :=
  match Manual.Category.ofName? name with
  | some category => .ok category.page
  | none => .error (.unknownCategory name)

end SearchQuery.Command
