import Mathlib.Data.List.Forall2
import Mathlib.Tactic.Common
import SearchQuery.Proofs.Query.RoundTrip
import SearchQuery.Proofs.Schema.CastQuery
import SearchQuery.Proofs.Schema.Temporal

/-!
# Types of a cast query

What is left at the leaves of the values of a cast query.

* `Kind.gives_of_cast`, `castText_gives`: a literal is cast to a value of the rule.
* `CastsValue.hasType`: no literal of a value is left out, however deep it stands.
* `forall₂_freePairs`: the free pairs of a query are cast one by one.
* `castItems_isTyped`: the types of the pairs of a query, from its text on.
-/

namespace SearchQuery

/-! ## Types -/

/-- The value is of the type, or a span of values of the type. -/
def Kind.Gives : Kind → Value → Prop
  | binaryId, .uuid _ | uuid, .uuid _ | ulid, .ulid _ | boolean, .boolean _ | integer, .integer _
  | float, .float _ | decimal, .decimal _ | atom, .atom _ | string, .string _ => True
  | temporal kind, v => kind.Admits v
  | _, _ => False

/-- What a literal is cast to is of the type. -/
theorem Kind.gives_of_cast {kind : Kind} {raw : String} {now : DateTime} {v : Value}
    (h : kind.cast raw now = .ok v) : kind.Gives v := by
  cases kind with
  | temporal kind => exact TemporalKind.admits_of_read (Except.mapError_eq_ok.1 h)
  | atom | string =>
    cases h
    trivial
  | float =>
    rw [cast] at h
    split at h
    · split at h
      · cases h
        trivial
      · cases h
    · cases h
  | _ =>
    rw [cast] at h
    split at h
    · cases h
      trivial
    · cases h

theorem Enumeration.mem_of_cast? {e : Enumeration} {raw name : String}
    (h : e.cast? raw = some name) : name ∈ e.values := by
  rw [cast?, Option.orElse_eq_orElse, Option.orElse_eq_or, Option.or_eq_some_iff] at h
  obtain h | ⟨-, h⟩ := h
  · exact List.mem_of_find?_eq_some h
  · exact List.mem_of_find?_eq_some h

/-- The value is one that the rule casts to. -/
def FieldRule.Gives : FieldRule → Value → Prop
  | .type kind, v => kind.Gives v
  | .enumeration e, v => ∃ name ∈ e.values, v = .atom name
  | .custom _, _ => False

namespace Schema

open Item

variable {schema : Schema} {field : String} {rule : FieldRule} {now : DateTime}

theorem castText_gives {raw : String} {v : Value} (h : castText field rule now raw = .ok v) :
    rule.Gives v := by
  cases rule with
  | type kind => exact Kind.gives_of_cast (Except.mapError_eq_ok.1 h)
  | enumeration e =>
    rw [castText] at h
    cases hcast : e.cast? raw with
    | none =>
      rw [hcast] at h
      cases h
    | some name =>
      rw [hcast] at h
      cases h
      exact ⟨name, Enumeration.mem_of_cast? hcast, rfl⟩
  | custom => cases h

theorem allowsPatterns_iff : allowsPatterns rule ↔ rule = .type .string ∨ rule = .type .atom := by
  cases rule with
  | type kind => cases kind <;> simp [allowsPatterns, FieldRule.kind?, Kind.acceptsPatterns]
  | _ => simp [allowsPatterns, FieldRule.kind?]

/-! ## Values -/

/-- No word or quote is left in the value but as a piece of a pattern, its literals are of the
rule, and its pins refer to fields. -/
inductive HasType (schema : Schema) (rule : FieldRule) : Item → Prop
  | value {pos : Position} {v : Value} (h : rule.Gives v) : HasType schema rule (.value pos v)
  | pin {pos place : Position} {key : String} {spec : FieldSpec}
      (h : schema.lookup? key = some spec) :
      HasType schema rule (.pin pos (.value place (.atom spec.source)))
  | pattern {pos : Position} {pieces : List Item} (h : rule = .type .string ∨ rule = .type .atom)
      (hpieces : ∀ piece ∈ pieces, piece.isPieceSort) : HasType schema rule (.pattern pos pieces)
  | compare {pos : Position} {op : Operator} {operand : Item} (h : HasType schema rule operand) :
      HasType schema rule (.compare pos op operand)
  | range {pos : Position} {start stop : Item} (hstart : HasType schema rule start)
      (hstop : HasType schema rule stop) : HasType schema rule (.range pos start stop)
  | list {pos : Position} {items : List Item} (h : ∀ item ∈ items, HasType schema rule item) :
      HasType schema rule (.list pos items)
  | group {pos : Position} {items : List Item} (h : ∀ item ∈ items, HasType schema rule item) :
      HasType schema rule (.group pos items)
  | and {pos : Position} {left : Item} {right : List Item} (hleft : HasType schema rule left)
      (hright : ∀ item ∈ right, HasType schema rule item) :
      HasType schema rule (.and pos left right)
  | or {pos : Position} {left : Item} {right : List Item} (hleft : HasType schema rule left)
      (hright : ∀ item ∈ right, HasType schema rule item) : HasType schema rule (.or pos left right)
  | not {pos : Position} {operand : Item} (h : HasType schema rule operand) :
      HasType schema rule (.not pos operand)
  | structural {item : Item} (h : item.isStructural) : HasType schema rule item

mutual

/-- What a value is cast to has the type. -/
theorem CastsValue.hasType : (item : Item) → {item' : Item} →
    (∀ node ∈ item.nodes, node.WellFormed) → CastsValue schema field rule now item item' →
    HasType schema rule item'
  | .word _ _, _, _, .word h => .value (castText_gives h)
  | .quote _ _, _, _, .quote h => .value (castText_gives h)
  | .pin _ _, _, _, .pin h => .pin h
  | .compare _ _ operand, _, hform, .compare h => by
    rw [nodes, List.forall_mem_cons] at hform
    exact .compare (h.hasType operand hform.2)
  | .range _ start stop, _, hform, .range hstart hstop => by
    rw [nodes, List.forall_mem_cons, List.forall_mem_append] at hform
    exact .range (hstart.hasType start hform.2.1) (hstop.hasType stop hform.2.2)
  | .list _ items, _, hform, .list h => by
    rw [nodes, List.forall_mem_cons] at hform
    exact .list (CastsValue.hasType_all items hform.2 h)
  | .group _ items, _, hform, .group h => by
    rw [nodes, List.forall_mem_cons] at hform
    exact .group (CastsValue.hasType_all items hform.2 h)
  | .and _ left right, _, hform, .and hleft hright => by
    rw [nodes, List.forall_mem_cons, List.forall_mem_append] at hform
    exact .and (hleft.hasType left hform.2.1) (CastsValue.hasType_all right hform.2.2 hright)
  | .or _ left right, _, hform, .or hleft hright => by
    rw [nodes, List.forall_mem_cons, List.forall_mem_append] at hform
    exact .or (hleft.hasType left hform.2.1) (CastsValue.hasType_all right hform.2.2 hright)
  | .not _ operand, _, hform, .not h => by
    rw [nodes, List.forall_mem_cons] at hform
    exact .not (h.hasType operand hform.2)
  | .pattern _ _, _, hform, .pattern h => by
    rw [nodes, List.forall_mem_cons] at hform
    exact .pattern (allowsPatterns_iff.1 h) hform.1.2.1
  -- Nothing that is read is a value yet.
  | .value _ _, _, hform, .value => by cases hform _ List.mem_cons_self
  | .null _, _, _, .null => .structural rfl
  | .infinity _, _, _, .infinity => .structural rfl
  | .wildcard _, _, _, .wildcard => .structural rfl
  | .anyChar _, _, _, .anyChar => .structural rfl

theorem CastsValue.hasType_all : (items : List Item) → {items' : List Item} →
    (∀ node ∈ nodesAll items, node.WellFormed) →
    List.Forall₂ (CastsValue schema field rule now) items items' →
    ∀ item ∈ items', HasType schema rule item
  | [], _, _, .nil => by simp
  | item :: items, _, hform, .cons hitem hitems => by
    rw [nodesAll, List.forall_mem_append] at hform
    rw [List.forall_mem_cons]
    exact ⟨hitem.hasType item hform.1, CastsValue.hasType_all items hform.2 hitems⟩

end

/-! ## Queries -/

/-- The value has the type that the schema declares for the key, if it declares one. -/
def IsTyped (schema : Schema) (key value : Item) : Prop :=
  ∀ spec, schema.lookup? (nameOf key) = some spec → (∀ f, spec.rule ≠ .custom f) →
    HasType schema spec.rule value

theorem castPair_isTyped {key value value' : Item} {source : String}
    (hform : ∀ node ∈ value.nodes, node.WellFormed)
    (h : schema.castPair (nameOf key) value now = .ok (source, value')) :
    schema.IsTyped key value' := fun _ hlookup hrule =>
  (castsValue_of_castValue value (castPair_declared hlookup hrule h)).hasType value hform

/-- A term of a query is a pair that is cast, or stays as it is. -/
theorem castTerm_eq_ok {term term' : Item} (h : schema.castTerm now term = .ok term') :
    (∃ pos key v source v', term = .pair pos key v ∧
      schema.castPair (nameOf key) v now = .ok (source, v') ∧
      term' = .pair pos (.word key.position source) v') ∨ term.pair? = none ∧ term' = term := by
  cases term with
  | pair pos key v =>
    obtain ⟨⟨source, v'⟩, hpair, ⟨⟩⟩ := Except.bind_eq_ok.1 h
    exact .inl ⟨pos, key, v, source, v', rfl, hpair, rfl⟩
  | _ =>
    cases h
    exact .inr ⟨rfl, rfl⟩

/-- The terms of a query are cast one by one. -/
theorem forall₂_castTerm {items out : List Item} (h : schema.castItems now items = .ok out) :
    List.Forall₂ (fun term term' => schema.castTerm now term = .ok term') (termsAll items)
      (termsAll out) := by
  rw [← Except.mapM_eq_ok_iff_forall₂, ← castItems_terms, h]
  rfl

/-- The free pairs of a query are cast one by one. -/
theorem forall₂_freePairs {items out : List Item} (h : schema.castItems now items = .ok out) :
    List.Forall₂ (fun p q => ∃ source, schema.castPair (nameOf p.1) p.2 now = .ok (source, q.2))
      (freePairs items) (freePairs out) := by
  refine List.rel_filterMap (fun term term' hterm => ?_) (forall₂_castTerm h)
  obtain ⟨pos, key, v, source, v', rfl, hpair, rfl⟩ | ⟨hpair, rfl⟩ := castTerm_eq_ok hterm
  · exact .some ⟨source, hpair⟩
  · rw [hpair]
    exact .none

theorem forall₂_append_left_iff {α : Type} {R : α → α → Prop} {xs ys ys' : List α} :
    List.Forall₂ R (xs ++ ys) (xs ++ ys') ↔ (∀ x ∈ xs, R x x) ∧ List.Forall₂ R ys ys' := by
  induction xs with
  | nil => simp
  | cons x xs ih =>
    rw [List.cons_append, List.cons_append, List.forall₂_cons, ih, List.forall_mem_cons, and_assoc]

theorem forall₂_pairs_iff {R : Item × Item → Item × Item → Prop} {terms terms' : List Item}
    (h : List.Forall₂ (fun term term' => schema.castTerm now term = .ok term') terms terms') :
    List.Forall₂ R (terms.flatMap pairs) (terms'.flatMap pairs) ↔
      List.Forall₂ R (terms.filterMap pair?) (terms'.filterMap pair?) ∧
        ∀ p ∈ terms.flatMap enclosed, R p p := by
  induction h with
  | nil => simp
  | @cons term term' terms terms' hterm _ ih =>
    rw [List.flatMap_cons, List.flatMap_cons, List.flatMap_cons, List.forall_mem_append]
    obtain ⟨pos, key, v, source, v', rfl, -, rfl⟩ | ⟨hpair, rfl⟩ := castTerm_eq_ok hterm
    · simp [pairs, pair?, enclosed, ih, and_assoc]
    -- A term that is kept has the same pairs before and after.
    · rw [pairs_eq_append, hpair, Option.toList_none, List.nil_append, forall₂_append_left_iff,
        List.filterMap_cons_none hpair, List.filterMap_cons_none hpair, ih]
      exact and_left_comm

/-- **Types of queries.** When a query is parsed and cast, the value of each free pair has the type
that the schema declares for its key. So have the values of all pairs just if those of the enclosed
ones have it as they are written. -/
theorem castItems_isTyped {limit : Nat} {text : String} {items out : List Item}
    (hparse : Query.parse limit text = .ok items) (h : schema.castItems now items = .ok out) :
    List.Forall₂ (fun p q => schema.IsTyped p.1 q.2) (freePairs items) (freePairs out) ∧
      (List.Forall₂ (fun p q => schema.IsTyped p.1 q.2) (pairsAll items) (pairsAll out) ↔
        ∀ p ∈ enclosedPairs items, schema.IsTyped p.1 p.2) := by
  obtain ⟨_, -, hread⟩ := Query.parse_ok hparse
  have hform : ∀ p ∈ freePairs items, ∀ node ∈ p.2.nodes, node.WellFormed := fun p hp =>
    forall_nodes_of_pairs items hread.sequence.wellFormed p
      ((pairsAll_perm items).mem_iff.2 (List.mem_append_left _ hp))
  have hfree : List.Forall₂ (fun p q => schema.IsTyped p.1 q.2) (freePairs items) (freePairs out) :=
    ((List.forall₂_and_left _ _).2 ⟨hform, forall₂_freePairs h⟩).imp
      fun _ _ ⟨hform, _, hpair⟩ => castPair_isTyped hform hpair
  refine ⟨hfree, ?_⟩
  rw [pairsAll_eq_flatMap_terms, pairsAll_eq_flatMap_terms, forall₂_pairs_iff (forall₂_castTerm h)]
  exact and_iff_right hfree

/-- A schema of days and names. -/
def people : Schema :=
  (Schema.empty.insert "born" ⟨"born", .type (.temporal .date)⟩).insert "name"
    ⟨"name", .type .string⟩

/-- The query `NOT (born:2020,^born name:a*)` with the year and the target of the pin. -/
def peopleQuery (year target : Item) : Item :=
  .not ⟨1, 1⟩ (.group ⟨1, 5⟩
    [.pair ⟨1, 6⟩ (.word ⟨1, 6⟩ "born") (.list ⟨1, 11⟩ [year, .pin ⟨1, 16⟩ target]),
      .pair ⟨1, 22⟩ (.word ⟨1, 22⟩ "name")
        (.pattern ⟨1, 27⟩ [.word ⟨1, 27⟩ "a", .wildcard ⟨1, 28⟩])])

/-- A span, a pin and a pattern that are of their types. -/
theorem castItems_isTyped_nested :
    let written := peopleQuery (.word ⟨1, 11⟩ "2020") (.word ⟨1, 17⟩ "born")
    let cast := peopleQuery (.value ⟨1, 11⟩ (.partialDate ⟨2020, none⟩))
      (.value ⟨1, 17⟩ (.atom "born"))
    Query.parse Query.defaultLimit "NOT (born:2020,^born name:a*)" = .ok [written] ∧
      people.castItems startOf2025 [written] = .ok [cast] ∧
      List.Forall₂ (fun p q => people.IsTyped p.1 q.2) (pairsAll [written]) (pairsAll [cast]) := by
  intro written cast
  have hparse : Query.parse Query.defaultLimit "NOT (born:2020,^born name:a*)" = .ok [written] :=
    rfl
  have hcast : people.castItems startOf2025 [written] = .ok [cast] := rfl
  have hfree : enclosedPairs [written] = [] := rfl
  refine ⟨hparse, hcast, (castItems_isTyped hparse hcast).2.2 ?_⟩
  rw [hfree]
  exact List.forall_mem_nil _

/-- A word in the operand of a comparison is left, although its key declares whole numbers. -/
theorem castItems_leaves_word :
    let items : List Item := [.compare ⟨1, 1⟩ .gt (.group ⟨1, 2⟩
      [.pair ⟨1, 3⟩ (.word ⟨1, 3⟩ "age") (.word ⟨1, 7⟩ "5")])]
    Query.parse Query.defaultLimit ">(age:5)" = .ok items ∧
      ages.castItems startOf2025 items = .ok items ∧
      ¬ List.Forall₂ (fun p q => ages.IsTyped p.1 q.2) (pairsAll items) (pairsAll items) := by
  refine ⟨rfl, rfl, fun h => ?_⟩
  have htyped : ages.IsTyped (.word ⟨1, 3⟩ "age") (.word ⟨1, 7⟩ "5") :=
    (List.forall₂_cons.1 h).1
  have htype := htyped ⟨"years", .type .integer⟩ rfl nofun
  cases htype with
  | structural h => cases h

end Schema

end SearchQuery
