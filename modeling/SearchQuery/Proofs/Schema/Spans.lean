import Mathlib.Data.List.Basic
import Mathlib.Tactic.Common
import SearchQuery.Proofs.Except
import SearchQuery.Proofs.Item.Literals
import SearchQuery.Proofs.Query.RoundTrip
import SearchQuery.Proofs.Schema.Bounds
import SearchQuery.Proofs.Schema.Casting

/-!
# Spans that are left

Resolving the spans of a value does not enter every part of it. A range that ends in a group keeps
the group as it is.

* `resolveBounds_spans`: the spans of a resolved value are those of the parts that are not entered.
* `castValue_unresolved`: such a part of a value cast to a declared type holds no spans, unless it
  is what a group was cast to that ends a range.
* `castPair_resolveBounds_spans`: the spans that are left in the value of a pair of a query.
-/

namespace SearchQuery

namespace Item

/-! ## Spans -/

/-- The span that an item is. -/
def span? (item : Item) : Option Value := item.literal?.filter (·.isPartial)

/-- The spans in an item, at any depth. -/
def spans (item : Item) : List Value := item.nodes.filterMap span?

theorem filterMap_nodesAll {α : Type} (f : Item → Option α) (items : List Item) :
    (nodesAll items).filterMap f = items.flatMap fun item => item.nodes.filterMap f := by
  induction items with
  | nil => rfl
  | cons item items ih => rw [nodesAll, List.filterMap_append, List.flatMap_cons, ih]

/-- An item that is no literal holds the spans of its parts. -/
theorem spans_of_nodes {item : Item} {parts : List Item} (hnodes : item.nodes = item :: parts)
    (hitem : item.literal? = none) : item.spans = parts.filterMap span? := by
  rw [spans, hnodes, List.filterMap_cons_none]
  rw [span?, hitem]
  rfl

section

variable (pos : Position) (item left key start stop : Item) (items right : List Item)

@[simp]
theorem spans_pin : (pin pos item).spans = item.spans :=
  spans_of_nodes (by rw [nodes]) rfl

@[simp]
theorem spans_compare (op : Operator) : (compare pos op item).spans = item.spans :=
  spans_of_nodes (by rw [nodes]) rfl

@[simp]
theorem spans_not : (not pos item).spans = item.spans :=
  spans_of_nodes (by rw [nodes]) rfl

@[simp]
theorem spans_pair : (pair pos key item).spans = key.spans ++ item.spans :=
  (spans_of_nodes (by rw [nodes]) rfl).trans List.filterMap_append

@[simp]
theorem spans_range : (range pos start stop).spans = start.spans ++ stop.spans :=
  (spans_of_nodes (by rw [nodes]) rfl).trans List.filterMap_append

@[simp]
theorem spans_list : (list pos items).spans = items.flatMap spans :=
  (spans_of_nodes (by rw [nodes]) rfl).trans (filterMap_nodesAll span? items)

@[simp]
theorem spans_group : (group pos items).spans = items.flatMap spans :=
  (spans_of_nodes (by rw [nodes]) rfl).trans (filterMap_nodesAll span? items)

@[simp]
theorem spans_pattern : (pattern pos items).spans = items.flatMap spans :=
  (spans_of_nodes (by rw [nodes]) rfl).trans (filterMap_nodesAll span? items)

@[simp]
theorem spans_and : (and pos left right).spans = left.spans ++ right.flatMap spans := by
  rw [spans_of_nodes (by rw [nodes]) rfl, List.filterMap_append, filterMap_nodesAll]
  rfl

@[simp]
theorem spans_or : (or pos left right).spans = left.spans ++ right.flatMap spans := by
  rw [spans_of_nodes (by rw [nodes]) rfl, List.filterMap_append, filterMap_nodesAll]
  rfl

theorem spans_value {v : Value} (h : v.isPartial = false) : (value pos v).spans = [] := by
  simp [spans, nodes, span?, literal?, h]

end

/-! ## Resolving -/

mutual

/-- The parts of a value that are left as they are when its spans are resolved: the sides of a range
that are no literals, what a pin refers to, the pieces of a pattern, and both sides of a pair. -/
def unresolved : Item → List Item
  | range _ start stop => [start, stop].filter (·.literal?.isNone)
  | pin _ target => [target]
  | pattern _ pieces => pieces
  | pair _ key v => [key, v]
  | compare _ _ operand | not _ operand => operand.unresolved
  | list _ items | group _ items => unresolvedAll items
  | and _ left right | or _ left right => left.unresolved ++ unresolvedAll right
  | _ => []

/-- The parts of several values that are left as they are. -/
def unresolvedAll : List Item → List Item
  | [] => []
  | item :: items => item.unresolved ++ unresolvedAll items

end

variable {field : String} {found : Option TemporalKind} {bound : Bound} {v w : Value}

theorem spans_resolved (pos : Position) (h : v.resolveFor? found bound = some w) :
    (value pos w).spans = [] :=
  spans_value pos (Value.isPartial_of_resolveFor? h)

/-- A side of a range keeps its spans if it is no literal. -/
theorem resolveSide_spans {side side' : Item} (h : resolveSide field found bound side = .ok side') :
    side'.spans = if side.literal?.isNone then side.spans else [] := by
  obtain ⟨pos, v, w, rfl, hw, rfl⟩ | ⟨hother, rfl⟩ := resolveSide_cases h
  · exact spans_resolved pos hw
  · cases side' with
    | value pos v => exact absurd rfl (hother pos v)
    | _ => rfl

mutual

/-- The spans that are left in a value are those of the parts that are not entered. -/
theorem resolveBounds_spans : (item : Item) → {item' : Item} →
    resolveBounds field found item = .ok item' → item'.spans = item.unresolved.flatMap spans
  | .value pos v, _, h => by
    obtain ⟨hpartial, rfl⟩ | ⟨-, w, w', hw, hw', rfl⟩ := resolveBounds_value h
    · exact spans_value pos hpartial
    · rw [spans_range, spans_resolved pos hw, spans_resolved pos hw']
      rfl
  | .range _ start stop, _, h => by
    obtain ⟨start', hstart, h⟩ := Except.bind_eq_ok.1 h
    obtain ⟨stop', hstop, ⟨⟩⟩ := Except.bind_eq_ok.1 h
    rw [spans_range, resolveSide_spans hstart, resolveSide_spans hstop, unresolved,
      List.filter_cons, List.filter_singleton]
    cases start.literal?.isNone <;> cases stop.literal?.isNone <;> simp
  | .compare pos op operand, _, h => by
    obtain ⟨bound, place, v, w, -, rfl, hw, rfl⟩ | ⟨operand', -, hoperand, rfl⟩ :=
      resolveBounds_compare h
    · rw [spans_compare]
      exact spans_resolved place hw
    · rw [spans_compare, unresolved]
      exact resolveBounds_spans operand hoperand
  | .not _ operand, _, h => by
    obtain ⟨operand', hoperand, ⟨⟩⟩ := Except.bind_eq_ok.1 h
    rw [spans_not, unresolved]
    exact resolveBounds_spans operand hoperand
  | .list _ items, _, h | .group _ items, _, h => by
    obtain ⟨items', hitems, ⟨⟩⟩ := Except.bind_eq_ok.1 h
    simpa [unresolved] using resolveBoundsAll_spans items hitems
  | .and _ left right, _, h | .or _ left right, _, h => by
    obtain ⟨left', hleft, h⟩ := Except.bind_eq_ok.1 h
    obtain ⟨right', hright, ⟨⟩⟩ := Except.bind_eq_ok.1 h
    simp [unresolved, resolveBounds_spans left hleft, resolveBoundsAll_spans right hright]
  | .pin _ _, _, h | .pattern _ _, _, h | .pair _ _ _, _, h => by
    cases h
    simp [unresolved]
  | .null _, _, h | .infinity _, _, h | .wildcard _, _, h | .anyChar _, _, h | .word _ _, _, h
  | .quote _ _, _, h => by
    cases h
    rfl

theorem resolveBoundsAll_spans : (items : List Item) → {items' : List Item} →
    resolveBoundsAll field found items = .ok items' →
    items'.flatMap spans = (unresolvedAll items).flatMap spans
  | [], _, h => by
    cases h
    rfl
  | item :: items, _, h => by
    obtain ⟨item', hitem, h⟩ := Except.bind_eq_ok.1 h
    obtain ⟨items', hitems, ⟨⟩⟩ := Except.bind_eq_ok.1 h
    rw [List.flatMap_cons, unresolvedAll, List.flatMap_append, resolveBounds_spans item hitem,
      resolveBoundsAll_spans items hitems]

end

/-! ## Items as they are read -/

theorem spans_of_isPieceSort {item : Item} (h : item.isPieceSort) : item.spans = [] := by
  cases item with
  | word | quote | wildcard | anyChar => rfl
  | _ => cases h

/-- The pieces of a pattern hold no spans. -/
theorem WellFormed.spans_pieces {pos : Position} {pieces : List Item}
    (h : WellFormed (.pattern pos pieces)) : ∀ piece ∈ pieces, piece.spans = [] :=
  fun piece hpiece => spans_of_isPieceSort (h.2.1 piece hpiece)

end Item

namespace Schema

open Item

variable {schema : Schema} {field : String} {rule : FieldRule} {now : DateTime}

/-! ## Casting -/

/-- The part is what a group was cast to that ends a range among the nodes. -/
def EndsRange (schema : Schema) (field : String) (rule : FieldRule) (now : DateTime)
    (nodes : List Item) (part : Item) : Prop :=
  ∃ pos start place items, .range pos start (.group place items) ∈ nodes ∧
    schema.castValue field rule now (.group place items) = .ok part

theorem EndsRange.mono {nodes nodes' : List Item} {part : Item}
    (h : EndsRange schema field rule now nodes part) (hsub : nodes ⊆ nodes') :
    EndsRange schema field rule now nodes' part := by
  obtain ⟨pos, start, place, items, hmem, hcast⟩ := h
  exact ⟨pos, start, place, items, hsub hmem, hcast⟩

/-- What a pin refers to becomes a name, which is no span. -/
theorem castTarget_spans {target target' : Item} (h : schema.castTarget target = .ok target') :
    target'.spans = [] := by
  rw [castTarget] at h
  split at h
  · cases h
    exact spans_value _ rfl
  · cases h

/-- A pattern that may be cast stays as it is. -/
theorem castValue_pattern {pos : Position} {pieces : List Item} {cast : Item}
    (h : schema.castValue field rule now (.pattern pos pieces) = .ok cast) :
    cast = .pattern pos pieces := by
  rw [castValue] at h
  split at h
  · cases h
    rfl
  · cases h

/-- A side of a range that is cast to no literal and holds a span is a group. -/
theorem castValue_side {side side' : Item} (hsort : side.isOpenSide ∨ side.isValueSort)
    (hform : side.WellFormed) (h : schema.castValue field rule now side = .ok side')
    (hliteral : side'.literal? = none) (hspans : side'.spans ≠ []) :
    ∃ pos items, side = .group pos items := by
  cases side with
  | group pos items => exact ⟨pos, items, rfl⟩
  | word | quote =>
    obtain ⟨v, -, ⟨⟩⟩ := Except.bind_eq_ok.1 h
    cases hliteral
  | pin pos target =>
    obtain ⟨target', htarget, ⟨⟩⟩ := Except.bind_eq_ok.1 h
    rw [spans_pin] at hspans
    exact absurd (castTarget_spans htarget) hspans
  | pattern pos pieces =>
    rw [castValue_pattern h, spans_pattern] at hspans
    exact absurd (List.flatMap_eq_nil_iff.2 hform.spans_pieces) hspans
  | null | infinity | wildcard | anyChar =>
    cases h
    exact absurd rfl hspans
  | _ => simp [isOpenSide, isValueSort, isPlainSort, isPieceSort, isNameSort] at hsort

mutual

/-- A part that is left as it is when the spans of a cast value are resolved holds no spans, unless
it is what a group was cast to that ends a range. -/
theorem castValue_unresolved : (item : Item) → {cast : Item} →
    (∀ node ∈ item.nodes, node.WellFormed) → schema.castValue field rule now item = .ok cast →
    ∀ part ∈ cast.unresolved, part.spans ≠ [] → EndsRange schema field rule now item.nodes part
  | .range pos start stop, _, hform, h => by
    obtain ⟨start', hstart, h⟩ := Except.bind_eq_ok.1 h
    obtain ⟨stop', hstop, ⟨⟩⟩ := Except.bind_eq_ok.1 h
    rw [nodes, List.forall_mem_cons, List.forall_mem_append] at hform
    obtain ⟨⟨hstartSort, -, hstopSort⟩, hform⟩ := hform
    intro part hpart hspans
    obtain ⟨hpart, hliteral⟩ : (part = start' ∨ part = stop') ∧ part.literal? = none := by
      simpa [unresolved] using hpart
    obtain rfl | rfl := hpart
    · -- A range starts with no group.
      obtain ⟨place, items, rfl⟩ := castValue_side
        (hstartSort.imp_right isValueSort_of_isPlainSort) (hform.1 _ start.mem_nodes_self) hstart
        hliteral hspans
      simp [isOpenSide, isPlainSort, isPieceSort, isNameSort] at hstartSort
    · obtain ⟨place, items, rfl⟩ := castValue_side hstopSort (hform.2 _ stop.mem_nodes_self) hstop
        hliteral hspans
      exact ⟨pos, start, place, items, mem_nodes_self _, hstop⟩
  | .compare _ _ operand, _, hform, h | .not _ operand, _, hform, h => by
    obtain ⟨operand', hoperand, ⟨⟩⟩ := Except.bind_eq_ok.1 h
    rw [nodes, List.forall_mem_cons] at hform
    intro part hpart hspans
    rw [nodes]
    exact (castValue_unresolved operand hform.2 hoperand part hpart hspans).mono
      (List.subset_cons_self ..)
  | .list _ items, _, hform, h | .group _ items, _, hform, h => by
    obtain ⟨items', hitems, ⟨⟩⟩ := Except.bind_eq_ok.1 h
    rw [nodes, List.forall_mem_cons] at hform
    intro part hpart hspans
    rw [nodes]
    exact (castValues_unresolved items hform.2 hitems part hpart hspans).mono
      (List.subset_cons_self ..)
  | .and _ left right, _, hform, h | .or _ left right, _, hform, h => by
    obtain ⟨left', hleft, h⟩ := Except.bind_eq_ok.1 h
    obtain ⟨right', hright, ⟨⟩⟩ := Except.bind_eq_ok.1 h
    rw [nodes, List.forall_mem_cons, List.forall_mem_append] at hform
    intro part hpart hspans
    rw [nodes]
    rw [unresolved, List.mem_append] at hpart
    obtain hpart | hpart := hpart
    · exact (castValue_unresolved left hform.2.1 hleft part hpart hspans).mono
        (List.subset_cons_of_subset _ (List.subset_append_left ..))
    · exact (castValues_unresolved right hform.2.2 hright part hpart hspans).mono
        (List.subset_cons_of_subset _ (List.subset_append_right ..))
  | .pin _ _, _, _, h => by
    obtain ⟨target', htarget, ⟨⟩⟩ := Except.bind_eq_ok.1 h
    intro part hpart hspans
    cases List.mem_singleton.1 hpart
    exact absurd (castTarget_spans htarget) hspans
  | .pattern pos pieces, _, hform, h => by
    rw [castValue_pattern h, unresolved]
    intro part hpart hspans
    exact absurd ((hform _ (mem_nodes_self _)).spans_pieces part hpart) hspans
  | .pair _ _ _, _, _, h => by cases h
  | .value _ _, _, hform, _ => (hform _ (mem_nodes_self _)).elim
  | .word _ _, _, _, h | .quote _ _, _, _, h => by
    obtain ⟨v, -, ⟨⟩⟩ := Except.bind_eq_ok.1 h
    simp [unresolved]
  | .null _, _, _, h | .infinity _, _, _, h | .wildcard _, _, _, h | .anyChar _, _, _, h => by
    cases h
    simp [unresolved]

theorem castValues_unresolved : (items : List Item) → {cast : List Item} →
    (∀ node ∈ nodesAll items, node.WellFormed) →
    schema.castValues field rule now items = .ok cast →
    ∀ part ∈ unresolvedAll cast, part.spans ≠ [] →
      EndsRange schema field rule now (nodesAll items) part
  | [], _, _, h => by
    cases h
    simp [unresolvedAll]
  | item :: items, _, hform, h => by
    obtain ⟨item', hitem, h⟩ := Except.bind_eq_ok.1 h
    obtain ⟨items', hitems, ⟨⟩⟩ := Except.bind_eq_ok.1 h
    rw [nodesAll, List.forall_mem_append] at hform
    intro part hpart hspans
    rw [nodesAll]
    rw [unresolvedAll, List.mem_append] at hpart
    obtain hpart | hpart := hpart
    · exact (castValue_unresolved item hform.1 hitem part hpart hspans).mono
        (List.subset_append_left ..)
    · exact (castValues_unresolved items hform.2 hitems part hpart hspans).mono
        (List.subset_append_right ..)

end

/-! ## Pairs of a query -/

/-- **Spans that are left.** The spans that are left in the value of a pair once it is cast and
resolved are those of the parts of the cast value that resolving does not enter. Under a declared
type or an enumeration such a part holds none, unless it is what a group was cast to that ends a
range. -/
theorem castPair_resolveBounds_spans {limit : Nat} {text name source : String} {items : List Item}
    {key value cast resolved : Item} {found : Option TemporalKind}
    (hparse : Query.parse limit text = .ok items) (hpair : (key, value) ∈ pairsAll items)
    (hcast : schema.castPair name value now = .ok (source, cast))
    (hresolve : cast.resolveBounds field found = .ok resolved) :
    resolved.spans = cast.unresolved.flatMap spans ∧
      ∀ spec, schema.lookup? name = some spec → (∀ f, spec.rule ≠ .custom f) →
        ∀ part ∈ cast.unresolved, part.spans ≠ [] →
          EndsRange schema name spec.rule now value.nodes part := by
  refine ⟨resolveBounds_spans cast hresolve, fun spec hlookup hrule => ?_⟩
  obtain ⟨t, -, hread⟩ := Query.parse_ok hparse
  have hform := forall_nodes_of_pairs items hread.sequence.wellFormed (key, value) hpair
  exact castValue_unresolved value hform (castPair_declared hlookup hrule hcast)

/-- A schema with a field of days. -/
def days : Schema := Schema.empty.insert "made" ⟨"made", .type (.temporal .date)⟩

/-- The moment at which such queries are cast. -/
def midMarch2024 : DateTime := ⟨⟨2024, 3, 15, by decide⟩, .midnight⟩

/-- The value of the query `made:2020..(day)` as it is read. -/
def fromYear2020 (day : String) : Item :=
  .range ⟨1, 6⟩ (.word ⟨1, 6⟩ "2020") (.group ⟨1, 12⟩ [.word ⟨1, 13⟩ day])

/-- No span is left in a range that ends in a group with a full date. -/
theorem castPair_resolveBounds_spans_day :
    let cast : Item := .range ⟨1, 6⟩ (.value ⟨1, 6⟩ (.partialDate ⟨2020, none⟩))
      (.group ⟨1, 12⟩ [.value ⟨1, 13⟩ (.date ⟨2021, 2, 3, by decide⟩)])
    let resolved : Item := .range ⟨1, 6⟩ (.value ⟨1, 6⟩ (.date ⟨2020, 1, 1, by decide⟩))
      (.group ⟨1, 12⟩ [.value ⟨1, 13⟩ (.date ⟨2021, 2, 3, by decide⟩)])
    Query.parse Query.defaultLimit "made:2020..(2021-02-03)" =
        .ok [.pair ⟨1, 1⟩ (.word ⟨1, 1⟩ "made") (fromYear2020 "2021-02-03")] ∧
      days.castPair "made" (fromYear2020 "2021-02-03") midMarch2024 = .ok ("made", cast) ∧
      cast.resolveBounds "made" (some .date) = .ok resolved ∧ resolved.spans = [] := by
  intro cast resolved
  have hparse : Query.parse Query.defaultLimit "made:2020..(2021-02-03)" =
      .ok [.pair ⟨1, 1⟩ (.word ⟨1, 1⟩ "made") (fromYear2020 "2021-02-03")] := rfl
  have hcast : days.castPair "made" (fromYear2020 "2021-02-03") midMarch2024 =
      .ok ("made", cast) := rfl
  have hresolve : cast.resolveBounds "made" (some .date) = .ok resolved := rfl
  refine ⟨hparse, hcast, hresolve, ?_⟩
  obtain ⟨hspans, -⟩ :=
    castPair_resolveBounds_spans hparse (List.mem_singleton_self _) hcast hresolve
  exact hspans

/-- A year in the group that ends a range is left as it is. -/
theorem castPair_resolveBounds_leaves_span :
    let cast : Item := .range ⟨1, 6⟩ (.value ⟨1, 6⟩ (.partialDate ⟨2020, none⟩))
      (.group ⟨1, 12⟩ [.value ⟨1, 13⟩ (.partialDate ⟨2021, none⟩)])
    let resolved : Item := .range ⟨1, 6⟩ (.value ⟨1, 6⟩ (.date ⟨2020, 1, 1, by decide⟩))
      (.group ⟨1, 12⟩ [.value ⟨1, 13⟩ (.partialDate ⟨2021, none⟩)])
    Query.parse Query.defaultLimit "made:2020..(2021)" =
        .ok [.pair ⟨1, 1⟩ (.word ⟨1, 1⟩ "made") (fromYear2020 "2021")] ∧
      days.castPair "made" (fromYear2020 "2021") midMarch2024 = .ok ("made", cast) ∧
      cast.resolveBounds "made" (some .date) = .ok resolved ∧ ¬ resolved.spans = [] :=
  ⟨rfl, rfl, rfl, nofun⟩

end Schema

end SearchQuery
