import Mathlib.Data.List.Basic
import Mathlib.Tactic.Common
import SearchQuery.Proofs.Json.Text
import SearchQuery.Proofs.QueryList.Json

/-!
# Query lists read back from their text

The text of a query list is read as the list it was written for, unless it nests too deep for the
reader of JSON. Numbers are left aside, and a query that is read from text has none.

* `read_text`: what is read of the text of a query list.
-/

namespace SearchQuery

/-! ## Values -/

namespace QueryValue

/-- Whether the value is written as a number. -/
def isNumber : QueryValue → Bool
  | integer _ | float _ => true
  | _ => false

theorem finite_of_isNumber {v : QueryValue} (h : v.isNumber = false) : v.Finite := by
  cases v with
  | float x => cases h
  | _ => trivial

theorem numberFree_marker (name : String) {json : Json} (h : json.NumberFree) :
    (Json.marker name json).NumberFree := by
  refine .object fun member hmember => ?_
  rw [List.mem_singleton.1 hmember]
  exact h

mutual

theorem toJson_numberFree : (v : QueryValue) → (∀ w ∈ v.nodes, w.isNumber = false) →
    v.toJson.NumberFree
  | null, _ => .null
  | bool _, _ => .bool
  | text _, _ => .string
  | integer n, h => nomatch h (integer n) (by simp [nodes])
  | float x, h => nomatch h (float x) (by simp [nodes])
  | list values, h => by
    rw [nodes, List.forall_mem_cons] at h
    exact .array (toJsonAll_numberFree values h.2)
  | pattern values, h | group values, h => by
    rw [nodes, List.forall_mem_cons] at h
    exact numberFree_marker _ (.array (toJsonAll_numberFree values h.2))
  | range start stop, h => by
    rw [nodes, List.forall_mem_cons, List.forall_mem_append] at h
    refine numberFree_marker _ (.array ?_)
    simp [toJson_numberFree start h.2.1, toJson_numberFree stop h.2.2]
  | wildcard _, _ | anyChar _, _ | infinity _, _ => numberFree_marker _ .bool
  | quote _, _ | pin _, _ => numberFree_marker _ .string

theorem toJsonAll_numberFree : (values : List QueryValue) →
    (∀ w ∈ nodesAll values, w.isNumber = false) → ∀ json ∈ toJsonAll values, json.NumberFree
  | [], _ => by simp [toJsonAll]
  | v :: values, h => by
    rw [nodesAll, List.forall_mem_append] at h
    rw [toJsonAll, List.forall_mem_cons]
    exact ⟨toJson_numberFree v h.1, toJsonAll_numberFree values h.2⟩

end

end QueryValue

/-! ## Entries -/

theorem QueryKey.toJson_numberFree (key : QueryKey) : key.toJson.NumberFree := by
  cases key with
  | text s => exact .string
  | quote s => exact QueryValue.numberFree_marker _ .string

namespace QueryItem

open Json

variable {entry : QueryItem}

/-- An entry has no members but those that its reader asks for. -/
theorem exists_members (entry : QueryItem) (h : ∀ w ∈ entry.value.nodes, w.isNumber = false) :
    ∃ members, entry.toJson = .object members ∧ ∀ member ∈ members,
      (member.1 = "key" ∨ member.1 = "op" ∨ member.1 = "value") ∧ member.2.NumberFree := by
  obtain ⟨key, op, value⟩ := entry
  have hvalue := value.toJson_numberFree h
  refine ⟨_, rfl, ?_⟩
  cases key <;> cases op <;>
    simp [hvalue, QueryKey.toJson_numberFree, NumberFree.string]

theorem toJson_numberFree (h : ∀ w ∈ entry.value.nodes, w.isNumber = false) :
    entry.toJson.NumberFree := by
  obtain ⟨members, hjson, hmembers⟩ := exists_members entry h
  rw [hjson]
  exact .object fun member hmember => (hmembers member hmember).2

/-- An entry is read from its text where there are levels for it. -/
theorem readItem?_written (h : ∀ w ∈ entry.value.nodes, w.isNumber = false) (level levels : Nat) :
    Takes (QueryList.readItem? levels) (entry.toJson.written level)
      (entry.toJson.within (levels + 1)) := by
  intro rest
  obtain ⟨members, hjson, hmembers⟩ := exists_members entry h
  have hparts : ∀ member ∈ members, Opens '\x7d' (writtenMember (level + 1) member) ∧
      Takes (readMember? (QueryList.readMemberValue? levels)) (writtenMember (level + 1) member)
        ((member.2.within levels).map (member.1, ·)) := by
    intro member hmember
    obtain ⟨hkey, hfree⟩ := hmembers member hmember
    refine ⟨opens_writtenMember _ member, readMember?_writtenMember hfree fun rest => ?_⟩
    rw [QueryList.readMemberValue?, if_pos (by simpa [or_assoc] using hkey)]
    exact readValue?_written hfree (level + 1) levels rest
  rw [hjson, written_object, List.cons_append, List.append_assoc, List.singleton_append,
    QueryList.readItem?, readContainer?_intercalate isBlank_brackets.2 hparts,
    mapM_within_members, within, nesting]
  by_cases hdeep : nestingMembers members ≤ levels <;> simp [hdeep]

end QueryItem

/-! ## Query lists -/

namespace QueryList

open Json

variable {list : List QueryItem}

theorem readItems?_written (h : ∀ entry ∈ list, ∀ w ∈ entry.value.nodes, w.isNumber = false)
    (level : Nat) :
    Takes readItems? ((toJson list).written level) ((toJson list).within maxNesting) := by
  intro rest
  have hparts : ∀ json ∈ list.map QueryItem.toJson, Opens ']' (json.written (level + 1)) ∧
      Takes (readItem? (maxNesting - 2)) (json.written (level + 1)) (json.within 126) := by
    intro json hjson
    obtain ⟨entry, hentry, rfl⟩ := List.mem_map.1 hjson
    exact ⟨(QueryItem.toJson_numberFree (h entry hentry)).opens _,
      QueryItem.readItem?_written (h entry hentry) (level + 1) 125⟩
  rw [toJson, written_array, List.cons_append, List.append_assoc, List.singleton_append,
    readItems?, readContainer?_intercalate isBlank_brackets.1 hparts, mapM_within, within, nesting]
  have hlevels : nestingAll (list.map QueryItem.toJson) + 1 ≤ maxNesting ↔
      nestingAll (list.map QueryItem.toJson) ≤ 126 := by
    rw [maxNesting]
    omega
  by_cases hdeep : nestingAll (list.map QueryItem.toJson) ≤ 126 <;> simp [hlevels, hdeep]

/-- The text of a query list without numbers is read as the list just if it does not nest too deep
for a JSON text. -/
theorem read_text (h : ∀ entry ∈ list, ∀ w ∈ entry.value.nodes, w.isNumber = false) :
    read (toJson list).text =
      if (toJson list).nesting ≤ maxNesting then .ok list else .error .json := by
  have hfree : (toJson list).NumberFree := by
    refine .array fun json hjson => ?_
    obtain ⟨entry, hentry, rfl⟩ := List.mem_map.1 hjson
    exact QueryItem.toJson_numberFree (h entry hentry)
  have hread : readWith? readItems? (toJson list).text = (toJson list).within maxNesting :=
    readWith?_of_takes (hfree.opens 0) (readItems?_written h 0)
  have hback : ofJson? (toJson list) = some list := by
    rw [toJson, ofJson?, mapM_ofJson?_iff]
    exact fun entry hentry => (QueryItem.ofJson?_toJson_iff entry).2 fun w hw =>
      QueryValue.finite_of_isNumber (h entry hentry w hw)
  rw [read, hread, within]
  by_cases hdeep : (toJson list).nesting ≤ maxNesting
  · rw [if_pos hdeep, if_pos hdeep, Option.bind_some, hback]
    rfl
  · rw [if_neg hdeep, if_neg hdeep]
    rfl

end QueryList

end SearchQuery
