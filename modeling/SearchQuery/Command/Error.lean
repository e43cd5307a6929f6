import SearchQuery.Document.Matcher
import SearchQuery.Item.Error
import SearchQuery.QueryList.Basic
import SearchQuery.Schema.Cast
import SearchQuery.Schema.Reader

/-!
# Errors of commands

What can go wrong in a command: a stage of it fails, or its input is not there.
-/

namespace SearchQuery

/-- Why a command failed. -/
inductive CommandError where
  | parse (error : ParseError)
  | transform (error : TransformError)
  | evaluation (error : MatchError)
  | queryList (error : QueryListError)
  | schema (error : SchemaError)
  /-- The input is not JSON. -/
  | json
  /-- A file or the standard input could not be read. -/
  | unreadable (reason : String)
  | noInput
  | invalidNow (raw : String)
  | unknownCategory (name : String)

/-- The error as it is reported. -/
def CommandError.message : CommandError → String
  | parse e => "Parse error: " ++ e.message
  | transform e => "Transform error: " ++ e.message
  | evaluation e => "Evaluation error: " ++ e.message
  | queryList e => "Query list error: " ++ e.message
  | schema e => "Schema error: " ++ e.message
  | json => "Invalid JSON: "
  | unreadable reason => "IO error: " ++ reason
  | noInput => "No input provided. Use --input or pipe JSON to stdin."
  | invalidNow raw => "Invalid --now value '" ++ raw ++ "': expected an RFC 3339 timestamp"
  | unknownCategory name =>
    "Unknown category: '" ++ name ++ "'\nRun 'sift docs' to see available categories."

end SearchQuery
