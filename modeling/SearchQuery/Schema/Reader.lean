import SearchQuery.QueryList.Json
import SearchQuery.Schema.Basic

/-!
# Reading schemas

A schema is a JSON object whose `fields` map keys to their rules, each with `type` or `enum` and an
optional `source`. Members of other names are refused. An enumeration is a list of values, named
after its key, or an object with `name` and `values`. Arrays may stand for objects, with the
members in this order.
-/

namespace SearchQuery

/-- Why a text is no schema. -/
inductive SchemaError where
  /-- The text is no JSON of the right shape. -/
  | json
  | field (key reason : String)
deriving DecidableEq

/-- The error as it is reported. What is wrong with a JSON text is left to its reader. -/
def SchemaError.message : SchemaError → String
  | .json => "invalid schema JSON: "
  | .field key reason => "field `" ++ key ++ "`: " ++ reason

namespace Schema

/-- The values of an enumeration as a schema gives them, perhaps with a name. -/
structure EnumEntry where
  name : Option String
  values : List String

/-- A field as a schema gives it. -/
structure FieldEntry where
  kind : Option Kind
  enumeration : Option EnumEntry
  source : Option String

/-- A string. -/
def string? : Json → Option String
  | .string s => some s
  | _ => none

/-- A list of strings. -/
def strings? : Json → Option (List String)
  | .array elements => elements.mapM string?
  | _ => none

/-- A type by its name, or as an object that has the name as its one key, over null. -/
def kind? : Json → Option Kind
  | .string s => Kind.ofName? s
  | .object [(s, .null)] => Kind.ofName? s
  | _ => none

/-- An enumeration. Members of other names are passed over. -/
def enumOf? : Json → Option EnumEntry
  | .object members =>
    match Json.membersNamed "name" members, Json.membersNamed "values" members with
    | [name], [values] => do return ⟨some (← string? name), ← strings? values⟩
    | _, _ => none
  | json => (strings? json).map fun values => ⟨none, values⟩

/-- A field from its three parts, each of which may be null. -/
def ofParts? (kind enumeration source : Json) : Option FieldEntry := do
  return ⟨← QueryItem.nullable? kind? kind, ← QueryItem.nullable? enumOf? enumeration,
    ← QueryItem.nullable? string? source⟩

/-- A field. -/
def fieldOf? : Json → Option FieldEntry
  | .array [kind, enumeration, source] => ofParts? kind enumeration source
  | .object members =>
    if members.all fun (key, _) => key == "type" || key == "enum" || key == "source" then do
      ofParts? (← Json.optional? "type" members) (← Json.optional? "enum" members)
        (← Json.optional? "source" members)
    else none
  | _ => none

/-- The fields of a schema, in the order in which they are written. -/
def fieldEntries? (json : Json) : Option (List (String × FieldEntry)) :=
  let fields := match json with
    | .array [fields] => some fields
    | .object [("fields", fields)] => some fields
    | _ => none
  match fields with
  | some (.object members) =>
    members.mapM fun (key, json) => (fieldOf? json).map fun entry => (key, entry)
  | _ => none

/-- What a key stands for. -/
def specOf (key : String) (entry : FieldEntry) : Except SchemaError FieldSpec :=
  let source := entry.source.getD key
  match entry.kind, entry.enumeration with
  | some kind, none => .ok ⟨source, .type kind⟩
  | none, some e =>
    if e.values.isEmpty then .error (.field key "enum has no values")
    else .ok ⟨source, .enumeration ⟨e.name.getD key, e.values⟩⟩
  | some _, some _ => .error (.field key "give either `type` or `enum`, not both")
  | none, none => .error (.field key "missing `type` or `enum`")

/-- Entries in the order of their keys with one more, which replaces another of its key. -/
def insertEntry (key : String) (entry : FieldEntry) :
    List (String × FieldEntry) → List (String × FieldEntry)
  | [] => [(key, entry)]
  | (k, e) :: rest =>
    if key < k then (key, entry) :: (k, e) :: rest
    else if key = k then (key, entry) :: rest
    else (k, e) :: insertEntry key entry rest

/-- The schema of entries. The first fault in the order of the keys is reported, and the last of
the entries of a key counts. -/
def ofEntries (entries : List (String × FieldEntry)) : Except SchemaError Schema := do
  let sorted := entries.foldl (fun sorted (key, entry) => insertEntry key entry sorted) []
  let fields ← sorted.mapM fun (key, entry) => do return (key, ← specOf key entry)
  return ⟨fields⟩

/-- Reads a schema from JSON text. -/
def read (text : String) : Except SchemaError Schema :=
  match (Json.read? text).bind fieldEntries? with
  | none => .error .json
  | some entries => ofEntries entries

end Schema

end SearchQuery
