import SearchQuery.Json.Basic

/-!
# Finding values in documents

A field is named by a key of the document, or by a path of keys with dots between them.
-/

namespace SearchQuery.Json

/-- The value that a path of keys leads to. -/
def descend? (path : List String) (json : Json) : Option Json :=
  path.foldlM (fun json key => json.get? key) json

/-- The keys of a path. -/
def pathKeys (path : String) : List String := (path.toList.splitOn '.').map String.ofList

/-- The value of a field: of the key that is spelled just so, and else at the end of the path. -/
def lookup? (doc : Json) (path : String) : Option Json :=
  doc.get? path <|> doc.descend? (pathKeys path)

/-- The value of the one field that a document has. -/
theorem lookup?_single (field : String) (v : Json) :
    (object [(field, v)]).lookup? field = some v := by
  simp [lookup?, get?]

mutual

/-- The strings, numbers and truth values of a document, at any depth. -/
def leaves : Json → List Json
  | null => []
  | array elements => leavesOfAll elements
  | object members => leavesOfMembers members
  | scalar => [scalar]

/-- The leaves of the elements of an array. -/
def leavesOfAll : List Json → List Json
  | [] => []
  | element :: elements => element.leaves ++ leavesOfAll elements

/-- The leaves of the members of an object. -/
def leavesOfMembers : List (String × Json) → List Json
  | [] => []
  | (_, value) :: members => value.leaves ++ leavesOfMembers members

end

/-- The values that a test of a slot is put to: the elements of an array, and else the value. -/
def slotValues : Option Json → List Json
  | none => []
  | some (array elements) => elements
  | some value => [value]

end SearchQuery.Json
