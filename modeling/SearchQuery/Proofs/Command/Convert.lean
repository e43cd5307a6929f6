import Mathlib.Tactic.Common
import SearchQuery.Command.Convert
import SearchQuery.Proofs.QueryList.Nesting
import SearchQuery.Proofs.QueryList.RoundTrip
import SearchQuery.Proofs.QueryList.Text

/-!
# Converting a query there and back

`decode` prints a query as a JSON query list, and `encode` reads one. Two limits meet here that know
nothing of each other: the one on the nesting of queries, and that of JSON texts, in which a group
takes an object and an array.

* `encode_decode_iff`: what `decode` prints is read by `encode` just if it does not nest too deep for
  a JSON text.
* `encode_decode_of_le`: where queries nest at most 30 deep it never does.
-/

namespace SearchQuery.Command

open Item

variable {limit : Nat} {text : String} {json : Json}

theorem decode_eq_ok : decode limit text = .ok json ↔
    ∃ items list, Query.parse limit text = .ok items ∧ QueryList.ofItems items = .ok list ∧
      QueryList.toJson list = json := by
  unfold decode
  simp only [Except.bind_eq_ok, Except.mapError_eq_ok, pure, Except.pure, Except.ok.injEq]
  constructor
  · rintro ⟨items, hitems, list, hlist, hjson⟩
    exact ⟨items, list, hitems, hlist, hjson⟩
  · rintro ⟨items, list, hitems, hlist, hjson⟩
    exact ⟨items, hitems, list, hlist, hjson⟩

theorem encode_eq_ok {printed : String} : encode text = .ok printed ↔
    ∃ list items, QueryList.read text = .ok list ∧ QueryList.toItems list = .ok items ∧
      Query.print items = printed := by
  unfold encode
  rw [Except.mapError_eq_ok, Except.bind_eq_ok]
  constructor
  · rintro ⟨list, hlist, hprint⟩
    obtain ⟨items, hitems, hprinted⟩ := Except.map_eq_ok.1 hprint
    exact ⟨list, items, hlist, hitems, hprinted⟩
  · rintro ⟨list, items, hlist, hitems, hprinted⟩
    exact ⟨list, hlist, Except.map_eq_ok.2 ⟨items, hitems, hprinted⟩⟩

/-- The JSON of a query is refused if it nests too deep for a JSON text, and converted if not. -/
theorem encode_of_decode (h : decode limit text = .ok json) :
    ∃ back, encode json.text =
      if json.nesting ≤ Json.maxNesting then .ok (Query.print back)
      else .error (.queryList .json) := by
  obtain ⟨items, list, hparse, hlist, rfl⟩ := decode_eq_ok.1 h
  obtain ⟨t, -, hread⟩ := Query.parse_ok hparse
  have hform := hread.sequence.wellFormed
  have htext := QueryList.read_text (QueryList.ofItems_isNumber hlist hform)
  obtain ⟨back, hback, -⟩ := QueryList.unplacedAll_toItems_iff hlist hform
  refine ⟨back, ?_⟩
  by_cases hdeep : (QueryList.toJson list).nesting ≤ Json.maxNesting
  · rw [if_pos hdeep] at htext ⊢
    exact encode_eq_ok.2 ⟨list, back, htext, hback, rfl⟩
  · rw [if_neg hdeep] at htext ⊢
    unfold encode
    rw [htext]
    rfl

/-- **There and back.** What `decode` prints is read by `encode` just if its arrays and objects nest
no deeper than those of a JSON text may. -/
theorem encode_decode_iff (h : decode limit text = .ok json) :
    (∃ printed, encode json.text = .ok printed) ↔ json.nesting ≤ Json.maxNesting := by
  obtain ⟨back, hback⟩ := encode_of_decode h
  rw [hback]
  by_cases hdeep : json.nesting ≤ Json.maxNesting
  · simp [hdeep]
  · simp [hdeep]

/-- A group, a list with a pattern, and an open range. -/
theorem encode_decode_iff_markers :
    let list : List QueryItem :=
      [⟨some (.text "k"), some (.compare .neq), .group [.text "a", .pin "b"]⟩,
        ⟨none, some .member, .list [.pattern [.text "c", .wildcard true], .null]⟩,
        ⟨none, none, .range (.text "d") (.infinity true)⟩]
    decode 2 "k:!(a ^b) c*,NULL d.." = .ok (QueryList.toJson list) ∧
      ((∃ printed, encode (QueryList.toJson list).text = .ok printed) ↔
        (QueryList.toJson list).nesting ≤ Json.maxNesting) := by
  intro list
  have hdecode : decode 2 "k:!(a ^b) c*,NULL d.." = .ok (QueryList.toJson list) := by
    rfl
  exact ⟨hdecode, encode_decode_iff hdecode⟩

/-- A value in a number of groups. -/
def grouped (v : QueryValue) : Nat → QueryValue
  | 0 => v
  | n + 1 => .group [grouped v n]

/-- A word in a number of parentheses. -/
def parenthesized (word : String) (n : Nat) : String :=
  String.ofList (List.replicate n '(' ++ word.toList ++ List.replicate n ')')

theorem nesting_grouped (v : QueryValue) (n : Nat) :
    (grouped v n).toJson.nesting = v.toJson.nesting + 2 * n := by
  induction n with
  | zero => rfl
  | succ n ih =>
    rw [grouped, QueryValue.toJson, QueryValue.nesting_marker_array]
    simp only [QueryValue.toJsonAll, Json.nestingAll, ih]
    omega

set_option maxRecDepth 4000 in
theorem decode_parenthesized : decode Query.defaultLimit (parenthesized "a" 63) =
    .ok (QueryList.toJson [⟨none, none, grouped (.text "a") 63⟩]) := by
  rfl

/-- A query that nests one level less than it may is not read back from its JSON. -/
theorem encode_refuses_groups : ∃ json,
    decode Query.defaultLimit (parenthesized "a" 63) = .ok json ∧
      ∀ printed, encode json.text ≠ .ok printed := by
  refine ⟨_, decode_parenthesized, fun printed hprinted => ?_⟩
  obtain ⟨back, hback⟩ := encode_of_decode decode_parenthesized
  have hnesting := nesting_grouped (.text "a") 63
  have hdeep : ¬ (QueryList.toJson [⟨none, none, grouped (.text "a") 63⟩]).nesting ≤
      Json.maxNesting := by
    simp [QueryList.toJson, QueryItem.toJson, Json.nesting, Json.nestingAll, Json.nestingMembers,
      hnesting, QueryValue.toJson, Json.maxNesting]
  rw [hback, if_neg hdeep] at hprinted
  cases hprinted

/-- **The limit that is low enough.** A query that nests at most 30 deep is converted there and
back. -/
theorem encode_decode_of_le (hlimit : limit ≤ 30) (h : decode limit text = .ok json) :
    ∃ printed, encode json.text = .ok printed := by
  obtain ⟨items, list, hparse, hlist, hjson⟩ := decode_eq_ok.1 h
  obtain ⟨t, -, hread⟩ := Query.parse_ok hparse
  have hlevels : nestingAll 0 items ≤ limit := by
    have := hread.levels
    rw [levels] at this
    omega
  have hnesting := QueryList.nesting_toJson_le hlist hread.sequence.wellFormed
  have hdeep : json.nesting ≤ Json.maxNesting := by
    rw [← hjson, Json.maxNesting]
    omega
  obtain ⟨back, hback⟩ := encode_of_decode h
  rw [hback, if_pos hdeep]
  exact ⟨_, rfl⟩

end SearchQuery.Command
