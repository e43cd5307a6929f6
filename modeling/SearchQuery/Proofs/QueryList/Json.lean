import Mathlib.Data.List.Basic
import Mathlib.Tactic.Common
import SearchQuery.QueryList.Json

/-!
# Query lists as JSON read back

A query list is read from the JSON that is written for it. JSON has no infinite numbers, so the
doubles among the values have to be finite.

* `QueryValue.ofJson?_toJson_iff`, `QueryItem.ofJson?_toJson_iff`: values and entries.
* `QueryList.ofJson?_toJson_eq_some_iff`: whole query lists.
-/

namespace SearchQuery

namespace QueryValue

/-! ## Values -/

mutual

/-- A value and all values inside it. -/
def nodes : QueryValue → List QueryValue
  | list values => list values :: nodesAll values
  | pattern pieces => pattern pieces :: nodesAll pieces
  | group values => group values :: nodesAll values
  | range start stop => range start stop :: (start.nodes ++ stop.nodes)
  | v => [v]

/-- Values and all values inside them. -/
def nodesAll : List QueryValue → List QueryValue
  | [] => []
  | v :: values => v.nodes ++ nodesAll values

end

/-- The value is no double that JSON writes as null. -/
def Finite : QueryValue → Prop
  | float x => x.isNaN = false ∧ x.isInf = false
  | _ => True

theorem ofNumber_toInt (n : Int64) : ofNumber (.integer n.toInt) = integer n := by
  have hle := n.le_toInt
  have hlt := n.toInt_lt
  have hrange : (-Number.int64Limit ≤ n.toInt && n.toInt < Number.int64Limit) = true := by
    rw [Bool.and_eq_true, decide_eq_true_eq, decide_eq_true_eq]
    exact ⟨hle, hlt⟩
  rw [ofNumber, hrange, if_pos rfl, Int64.ofInt_toInt]

theorem ofJson?_marker (name : String) (values : List QueryValue) :
    ofJson? (.marker name (.array (toJsonAll values))) =
      (ofJsonAll? (toJsonAll values)).bind (ofList? name) := by
  rw [Json.marker, ofJson?]

theorem ofJson?_ofFloat_iff (x : Float) :
    ofJson? (Json.ofFloat x) = some (float x) ↔ (float x).Finite := by
  rw [Json.ofFloat, Finite]
  cases x.isNaN <;> cases x.isInf <;> simp [ofJson?, ofNumber]

mutual

/-- A value is read from its JSON just if its doubles are finite. -/
theorem ofJson?_toJson_iff : (v : QueryValue) →
    (ofJson? v.toJson = some v ↔ ∀ w ∈ v.nodes, w.Finite)
  | null | bool _ | text _ | wildcard _ | anyChar _ | infinity _ | quote _ | pin _ => by
    simp [toJson, Json.marker, ofJson?, ofFlag?, ofName?, nodes, Finite]
  | integer n => by
    simp [toJson, ofJson?, ofNumber_toInt, nodes, Finite]
  | float x => by
    rw [toJson, ofJson?_ofFloat_iff]
    simp [nodes]
  | list values => by
    rw [toJson, ofJson?, nodes, List.forall_mem_cons, ← ofJsonAll?_toJsonAll_iff values]
    simp [Finite]
  | pattern values | group values => by
    rw [toJson, ofJson?_marker, nodes, List.forall_mem_cons, ← ofJsonAll?_toJsonAll_iff values]
    simp [Finite, Option.bind_eq_some_iff, ofList?]
  | range start stop => by
    rw [toJson, Json.marker, ofJson?, nodes, List.forall_mem_cons, List.forall_mem_append,
      ← ofJson?_toJson_iff start, ← ofJson?_toJson_iff stop]
    simp [Finite, Option.bind_eq_some_iff, ofJsonAll?, ofList?]

/-- Values are read from their JSON just if their doubles are finite. -/
theorem ofJsonAll?_toJsonAll_iff : (values : List QueryValue) →
    (ofJsonAll? (toJsonAll values) = some values ↔ ∀ w ∈ nodesAll values, w.Finite)
  | [] => by simp [toJsonAll, ofJsonAll?, nodesAll]
  | v :: values => by
    rw [toJsonAll, ofJsonAll?, nodesAll, List.forall_mem_append, ← ofJson?_toJson_iff v,
      ← ofJsonAll?_toJsonAll_iff values]
    simp [Option.bind_eq_some_iff]

end

end QueryValue

/-! ## Entries -/

theorem QueryKey.ofJson?_toJson (key : QueryKey) : ofJson? key.toJson = some key := by
  cases key <;> simp [toJson, Json.marker, ofJson?, Json.membersNamed]

theorem QueryOp.ofJson?_name (op : QueryOp) : ofJson? (.string op.name) = some op := by
  rw [ofJson?]
  cases op with
  | compare op => cases op <;> rfl
  | member => rfl

namespace QueryItem

/-- What is written as null, or left out, is read as nothing. -/
theorem nullable?_getD {α : Type} {read : Json → Option α} {write : α → Json}
    (hread : ∀ a, read (write a) = some a) (hwrite : ∀ a, write a ≠ .null) (part : Option α) :
    nullable? read ((part.map write).getD .null) = some part := by
  cases part with
  | none => rfl
  | some a =>
    rw [Option.map_some, Option.getD_some, nullable?, hread]
    · rfl
    · exact hwrite a

/-- An entry is read from the JSON of its parts just if its value is. -/
theorem ofParts?_toJson_iff (entry : QueryItem) :
    ofParts? ((entry.key.map QueryKey.toJson).getD .null)
        ((entry.op.map fun op => .string op.name).getD .null) entry.value.toJson = some entry ↔
      QueryValue.ofJson? entry.value.toJson = some entry.value := by
  have hkey := nullable?_getD QueryKey.ofJson?_toJson
    (fun key => by cases key <;> simp [QueryKey.toJson, Json.marker]) entry.key
  have hop := nullable?_getD QueryOp.ofJson?_name (by simp) entry.op
  rw [ofParts?, hkey, hop]
  obtain ⟨key, op, value⟩ := entry
  simp [Option.bind_eq_some_iff]

/-- An entry is read from its JSON just if the doubles in its value are finite. -/
theorem ofJson?_toJson_iff (entry : QueryItem) :
    ofJson? entry.toJson = some entry ↔ ∀ w ∈ entry.value.nodes, w.Finite := by
  rw [← QueryValue.ofJson?_toJson_iff, ← ofParts?_toJson_iff]
  obtain ⟨key, op, value⟩ := entry
  cases key <;> cases op <;> simp [toJson, ofJson?, Json.optional?, Json.membersNamed]

end QueryItem

/-! ## Query lists -/

namespace QueryList

theorem mapM_ofJson?_iff {list : List QueryItem} :
    (list.map QueryItem.toJson).mapM QueryItem.ofJson? = some list ↔
      ∀ entry ∈ list, QueryItem.ofJson? entry.toJson = some entry := by
  induction list with
  | nil => simp
  | cons entry list ih =>
    rw [List.map_cons, List.mapM_cons, List.forall_mem_cons, ← ih]
    simp [Option.bind_eq_some_iff]

/-- **JSON undoes JSON.** A query list is read from its JSON just if all its doubles are finite. -/
theorem ofJson?_toJson_eq_some_iff (list : List QueryItem) :
    ofJson? (toJson list) = some list ↔ ∀ entry ∈ list, ∀ w ∈ entry.value.nodes, w.Finite := by
  rw [toJson, ofJson?, mapM_ofJson?_iff]
  exact forall₂_congr fun entry _ => QueryItem.ofJson?_toJson_iff entry

end QueryList

end SearchQuery
