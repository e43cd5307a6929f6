import Mathlib.Data.List.Forall2
import SearchQuery.Proofs.Item.Terms
import SearchQuery.Proofs.Schema.Casting
import SearchQuery.Query

/-!
# Casting a query

What a query is cast to, as a relation between its tree and the tree that it becomes.

* `CastsValue` and `CastsQuery`: the leaves that are cast, and all else the same at its place.
* `castItems_terms`: groups and keywords are walked through, and the terms cast in their order.
* `castItems_free`: the tree that comes out, when there is one, and which error there is if not.

A pair in a term of another sort, as in `>(age:5)`, is not walked to: its key may be unknown, and
its literals stay as they are.
-/

namespace SearchQuery.Schema

open Item

/-! ## Trees with other leaves -/

section

variable (schema : Schema) (field : String) (rule : FieldRule) (now : DateTime)

/-- The second value is the tree of the first: words and quotes are cast, and pins refer to the
fields that their keys read. -/
inductive CastsValue : Item → Item → Prop
  | word {pos : Position} {raw : String} {v : Value} (h : castText field rule now raw = .ok v) :
      CastsValue (.word pos raw) (.value pos v)
  | quote {pos : Position} {raw : String} {v : Value} (h : castText field rule now raw = .ok v) :
      CastsValue (.quote pos raw) (.value pos v)
  | pin {pos : Position} {target : Item} {spec : FieldSpec}
      (h : schema.lookup? (nameOf target) = some spec) :
      CastsValue (.pin pos target) (.pin pos (.value target.position (.atom spec.source)))
  | compare {pos : Position} {op : Operator} {operand operand' : Item}
      (h : CastsValue operand operand') :
      CastsValue (.compare pos op operand) (.compare pos op operand')
  | range {pos : Position} {start stop start' stop' : Item} (hstart : CastsValue start start')
      (hstop : CastsValue stop stop') : CastsValue (.range pos start stop) (.range pos start' stop')
  | list {pos : Position} {items items' : List Item} (h : List.Forall₂ CastsValue items items') :
      CastsValue (.list pos items) (.list pos items')
  | group {pos : Position} {items items' : List Item} (h : List.Forall₂ CastsValue items items') :
      CastsValue (.group pos items) (.group pos items')
  | and {pos : Position} {left left' : Item} {right right' : List Item}
      (hleft : CastsValue left left') (hright : List.Forall₂ CastsValue right right') :
      CastsValue (.and pos left right) (.and pos left' right')
  | or {pos : Position} {left left' : Item} {right right' : List Item}
      (hleft : CastsValue left left') (hright : List.Forall₂ CastsValue right right') :
      CastsValue (.or pos left right) (.or pos left' right')
  | not {pos : Position} {operand operand' : Item} (h : CastsValue operand operand') :
      CastsValue (.not pos operand) (.not pos operand')
  | pattern {pos : Position} {pieces : List Item} (h : allowsPatterns rule) :
      CastsValue (.pattern pos pieces) (.pattern pos pieces)
  | value {pos : Position} {v : Value} : CastsValue (.value pos v) (.value pos v)
  | null {pos : Position} : CastsValue (.null pos) (.null pos)
  | infinity {pos : Position} : CastsValue (.infinity pos) (.infinity pos)
  | wildcard {pos : Position} : CastsValue (.wildcard pos) (.wildcard pos)
  | anyChar {pos : Position} : CastsValue (.anyChar pos) (.anyChar pos)

/-- The second item is the tree of the first: the values of free pairs are cast, and their keys give
way to the fields that they read. All other terms stay as they are. -/
inductive CastsQuery : Item → Item → Prop
  | pair {pos : Position} {key v v' : Item} {spec : FieldSpec}
      (hlookup : schema.lookup? (nameOf key) = some spec)
      (h : CastsValue schema (nameOf key) spec.rule now v v') :
      CastsQuery (.pair pos key v) (.pair pos (.word key.position spec.source) v')
  | group {pos : Position} {items items' : List Item} (h : List.Forall₂ CastsQuery items items') :
      CastsQuery (.group pos items) (.group pos items')
  | and {pos : Position} {left left' : Item} {right right' : List Item}
      (hleft : CastsQuery left left') (hright : List.Forall₂ CastsQuery right right') :
      CastsQuery (.and pos left right) (.and pos left' right')
  | or {pos : Position} {left left' : Item} {right right' : List Item}
      (hleft : CastsQuery left left') (hright : List.Forall₂ CastsQuery right right') :
      CastsQuery (.or pos left right) (.or pos left' right')
  | not {pos : Position} {operand operand' : Item} (h : CastsQuery operand operand') :
      CastsQuery (.not pos operand) (.not pos operand')
  | kept {item : Item} (hterm : item.isTerm) (hpair : item.pair? = none) : CastsQuery item item

/-- Every rule of the schema is a declared type or an enumeration. -/
def IsDeclared : Prop := ∀ entry ∈ schema.fields, ∀ f, entry.2.rule ≠ .custom f

end

variable {schema : Schema} {field name : String} {rule : FieldRule} {now : DateTime}

/-! ## Values -/

theorem IsDeclared.rule_ne_custom {spec : FieldSpec} (hrules : schema.IsDeclared)
    (h : schema.lookup? name = some spec) : ∀ f, spec.rule ≠ .custom f := by
  obtain ⟨entry, hentry, rfl⟩ := Option.map_eq_some_iff.1 h
  exact hrules entry (List.mem_of_find?_eq_some hentry)

theorem castTarget_eq_ok {target target' : Item} : schema.castTarget target = .ok target' ↔
    ∃ spec, schema.lookup? (nameOf target) = some spec ∧
      .value target.position (.atom spec.source) = target' := by
  rw [castTarget]
  cases schema.lookup? (nameOf target) <;> simp

mutual

/-- What a value is cast to is its tree with the leaves cast. -/
theorem castsValue_of_castValue : (item : Item) → {item' : Item} →
    schema.castValue field rule now item = .ok item' → CastsValue schema field rule now item item'
  | .word _ _, _, h => by
    obtain ⟨v, hv, ⟨⟩⟩ := Except.bind_eq_ok.1 h
    exact .word hv
  | .quote _ _, _, h => by
    obtain ⟨v, hv, ⟨⟩⟩ := Except.bind_eq_ok.1 h
    exact .quote hv
  | .pin _ _, _, h => by
    obtain ⟨_, htarget, ⟨⟩⟩ := Except.bind_eq_ok.1 h
    obtain ⟨spec, hspec, rfl⟩ := castTarget_eq_ok.1 htarget
    exact .pin hspec
  | .compare _ _ operand, _, h => by
    obtain ⟨_, hoperand, ⟨⟩⟩ := Except.bind_eq_ok.1 h
    exact .compare (castsValue_of_castValue operand hoperand)
  | .range _ start stop, _, h => by
    obtain ⟨_, hstart, h⟩ := Except.bind_eq_ok.1 h
    obtain ⟨_, hstop, ⟨⟩⟩ := Except.bind_eq_ok.1 h
    exact .range (castsValue_of_castValue start hstart) (castsValue_of_castValue stop hstop)
  | .list _ items, _, h => by
    obtain ⟨_, hitems, ⟨⟩⟩ := Except.bind_eq_ok.1 h
    exact .list (forall₂_of_castValues items hitems)
  | .group _ items, _, h => by
    obtain ⟨_, hitems, ⟨⟩⟩ := Except.bind_eq_ok.1 h
    exact .group (forall₂_of_castValues items hitems)
  | .and _ left right, _, h => by
    obtain ⟨_, hleft, h⟩ := Except.bind_eq_ok.1 h
    obtain ⟨_, hright, ⟨⟩⟩ := Except.bind_eq_ok.1 h
    exact .and (castsValue_of_castValue left hleft) (forall₂_of_castValues right hright)
  | .or _ left right, _, h => by
    obtain ⟨_, hleft, h⟩ := Except.bind_eq_ok.1 h
    obtain ⟨_, hright, ⟨⟩⟩ := Except.bind_eq_ok.1 h
    exact .or (castsValue_of_castValue left hleft) (forall₂_of_castValues right hright)
  | .not _ operand, _, h => by
    obtain ⟨_, hoperand, ⟨⟩⟩ := Except.bind_eq_ok.1 h
    exact .not (castsValue_of_castValue operand hoperand)
  | .pattern _ _, _, h => by
    rw [castValue] at h
    split at h
    · cases h
      exact .pattern ‹_›
    · cases h
  | .value _ _, _, h | .null _, _, h | .infinity _, _, h | .wildcard _, _, h | .anyChar _, _, h => by
    cases h
    constructor
  | .pair _ _ _, _, h => by cases h

theorem forall₂_of_castValues : (items : List Item) → {items' : List Item} →
    schema.castValues field rule now items = .ok items' →
    List.Forall₂ (CastsValue schema field rule now) items items'
  | [], _, h => by
    cases h
    exact .nil
  | item :: items, _, h => by
    obtain ⟨_, hitem, h⟩ := Except.bind_eq_ok.1 h
    obtain ⟨_, hitems, ⟨⟩⟩ := Except.bind_eq_ok.1 h
    exact .cons (castsValue_of_castValue item hitem) (forall₂_of_castValues items hitems)

end

/-! ## Queries -/

mutual

/-- What an item is cast to is its tree with the free pairs cast. -/
theorem castsQuery_of_castItem (hrules : schema.IsDeclared) : (item : Item) → {item' : Item} →
    schema.castItem now item = .ok item' → CastsQuery schema now item item'
  | .pair pos key v, _, h => by
    obtain ⟨⟨source, v'⟩, hpair, ⟨⟩⟩ := Except.bind_eq_ok.1 h
    obtain ⟨spec, hspec, rfl⟩ := castPair_source hpair
    exact .pair hspec (castsValue_of_castValue v
      (castPair_declared hspec (hrules.rule_ne_custom hspec) hpair))
  | .group _ items, _, h => by
    obtain ⟨_, hitems, ⟨⟩⟩ := Except.bind_eq_ok.1 h
    exact .group (forall₂_of_castItems hrules items hitems)
  | .and _ left right, _, h => by
    obtain ⟨_, hleft, h⟩ := Except.bind_eq_ok.1 h
    obtain ⟨_, hright, ⟨⟩⟩ := Except.bind_eq_ok.1 h
    exact .and (castsQuery_of_castItem hrules left hleft) (forall₂_of_castItems hrules right hright)
  | .or _ left right, _, h => by
    obtain ⟨_, hleft, h⟩ := Except.bind_eq_ok.1 h
    obtain ⟨_, hright, ⟨⟩⟩ := Except.bind_eq_ok.1 h
    exact .or (castsQuery_of_castItem hrules left hleft) (forall₂_of_castItems hrules right hright)
  | .not _ operand, _, h => by
    obtain ⟨_, hoperand, ⟨⟩⟩ := Except.bind_eq_ok.1 h
    exact .not (castsQuery_of_castItem hrules operand hoperand)
  | .null _, _, h | .infinity _, _, h | .wildcard _, _, h | .anyChar _, _, h | .word _ _, _, h
  | .quote _ _, _, h | .value _ _, _, h | .pin _ _, _, h | .compare _ _ _, _, h
  | .range _ _ _, _, h | .list _ _, _, h | .pattern _ _, _, h => by
    cases h
    exact .kept rfl rfl

theorem forall₂_of_castItems (hrules : schema.IsDeclared) : (items : List Item) →
    {items' : List Item} → schema.castItems now items = .ok items' →
    List.Forall₂ (CastsQuery schema now) items items'
  | [], _, h => by
    cases h
    exact .nil
  | item :: items, _, h => by
    obtain ⟨_, hitem, h⟩ := Except.bind_eq_ok.1 h
    obtain ⟨_, hitems, ⟨⟩⟩ := Except.bind_eq_ok.1 h
    exact .cons (castsQuery_of_castItem hrules item hitem)
      (forall₂_of_castItems hrules items hitems)

end

/-! ## Terms -/

/-- Casts a term of a query, which all but a pair stays as it is. -/
def castTerm (schema : Schema) (now : DateTime) : Item → Except TransformError Item
  | .pair pos key v => schema.castItem now (.pair pos key v)
  | item => .ok item

mutual

theorem castItem_terms : (item : Item) → (do return (← schema.castItem now item).terms) =
    item.terms.mapM (schema.castTerm now)
  | .pair pos key v => by
    change _ = [Item.pair pos key v].mapM (schema.castTerm now)
    rw [List.mapM_cons, castTerm, castItem]
    cases schema.castPair (nameOf key) v now <;> rfl
  | .group _ items => by
    rw [terms, ← castItems_terms items, castItem]
    cases schema.castItems now items <;> rfl
  -- The left side is cast first, and its terms stand first: the first error is the same.
  | .and _ left right | .or _ left right => by
    rw [terms, List.mapM_append, ← castItem_terms left, ← castItems_terms right, castItem]
    cases schema.castItem now left <;> cases schema.castItems now right <;> rfl
  | .not _ operand => by
    rw [terms, ← castItem_terms operand, castItem]
    cases schema.castItem now operand <;> rfl
  | .null _ | .infinity _ | .wildcard _ | .anyChar _ | .word _ _ | .quote _ _ | .value _ _
  | .pin _ _ | .compare _ _ _ | .range _ _ _ | .list _ _ | .pattern _ _ => rfl

/-- A query is cast term by term. -/
theorem castItems_terms : (items : List Item) →
    (do return termsAll (← schema.castItems now items)) =
      (termsAll items).mapM (schema.castTerm now)
  | [] => rfl
  | item :: items => by
    rw [termsAll, List.mapM_append, ← castItem_terms item, ← castItems_terms items, castItems]
    cases schema.castItem now item <;> cases schema.castItems now items <;> rfl

end

/-- Why a pair is not cast, if it is not. -/
def pairError? (schema : Schema) (now : DateTime) (p : Item × Item) : Option TransformError :=
  Except.error? (schema.castPair (nameOf p.1) p.2 now)

theorem error?_castTerm (term : Item) : Except.error? (schema.castTerm now term) =
    term.pair?.bind (schema.pairError? now) := by
  cases term with
  | pair pos key v => exact Except.error?_map _ _
  | _ => rfl

/-- The error of a query is that of the first of its free pairs that is not cast. -/
theorem error?_castItems (items : List Item) : Except.error? (schema.castItems now items) =
    (freePairs items).findSome? (schema.pairError? now) := by
  rw [← Except.error?_map termsAll, castItems_terms, Except.error?_mapM, freePairs,
    ← List.head?_filterMap, ← List.head?_filterMap, List.filterMap_filterMap]
  simp only [error?_castTerm]

/-- **Casting a query.** What a query is cast to is its tree with the free pairs cast. It is cast
just if each of its free pairs is, and is otherwise refused for the first that is not. These are all
of its pairs just if no other term encloses one. -/
theorem castItems_free (hrules : schema.IsDeclared) (now : DateTime) (items : List Item) :
    (∀ items', schema.castItems now items = .ok items' →
        List.Forall₂ (CastsQuery schema now) items items') ∧
      ((∃ items', schema.castItems now items = .ok items') ↔
        ∀ p ∈ freePairs items, ∃ cast, schema.castPair (nameOf p.1) p.2 now = .ok cast) ∧
      (∀ e, schema.castItems now items = .error e ↔
        ∃ before p after, freePairs items = before ++ p :: after ∧
          schema.castPair (nameOf p.1) p.2 now = .error e ∧
          ∀ q ∈ before, ∃ cast, schema.castPair (nameOf q.1) q.2 now = .ok cast) ∧
      (pairsAll items = freePairs items ↔ enclosedPairs items = []) := by
  refine ⟨fun items' h => forall₂_of_castItems hrules items h, ?_, fun e => ?_,
    pairsAll_eq_freePairs_iff⟩
  · rw [← Except.error?_eq_none_iff, error?_castItems, List.findSome?_eq_none_iff]
    simp only [pairError?, Except.error?_eq_none_iff]
  · rw [← Except.error?_eq_some_iff, error?_castItems, List.findSome?_eq_some_iff]
    simp only [pairError?, Except.error?_eq_none_iff, Except.error?_eq_some_iff]

/-- A schema of two whole numbers. -/
def ages : Schema :=
  (Schema.empty.insert "age" ⟨"years", .type .integer⟩).insert "low" ⟨"least", .type .integer⟩

/-- The moment at which such queries are cast. -/
def startOf2025 : DateTime := ⟨⟨2025, 1, 1, by decide⟩, .midnight⟩

/-- The query `x AND (age:5 OR age:^low)` with the names of its keys, the value of the first pair
and the target of the pin. -/
def agesQuery (name : String) (value target : Item) : Item :=
  .and ⟨1, 3⟩ (.word ⟨1, 1⟩ "x") [.group ⟨1, 7⟩ [.or ⟨1, 14⟩
    (.pair ⟨1, 8⟩ (.word ⟨1, 8⟩ name) value)
    [.pair ⟨1, 17⟩ (.word ⟨1, 17⟩ name) (.pin ⟨1, 21⟩ target)]]]

/-- Below an `AND` and an `OR` all pairs are cast. -/
theorem castItems_free_nested :
    let written := agesQuery "age" (.word ⟨1, 12⟩ "5") (.word ⟨1, 22⟩ "low")
    let cast := agesQuery "years" (.value ⟨1, 12⟩ (.integer 5)) (.value ⟨1, 22⟩ (.atom "least"))
    ages.IsDeclared ∧
      Query.parse Query.defaultLimit "x AND (age:5 OR age:^low)" = .ok [written] ∧
      ages.castItems startOf2025 [written] = .ok [cast] ∧
      List.Forall₂ (CastsQuery ages startOf2025) [written] [cast] ∧
      pairsAll [written] = freePairs [written] := by
  intro written cast
  have hrules : ages.IsDeclared := by
    intro entry hentry
    rcases List.mem_cons.1 hentry with rfl | hentry
    · nofun
    · rcases List.mem_cons.1 hentry with rfl | hentry
      · nofun
      · cases hentry
  have hcast : ages.castItems startOf2025 [written] = .ok [cast] := rfl
  obtain ⟨htree, -, -, hpairs⟩ := castItems_free hrules startOf2025 [written]
  exact ⟨hrules, rfl, hcast, htree _ hcast, hpairs.2 rfl⟩

/-- A pair in the operand of a comparison is left as it is, although its key is unknown. -/
theorem castItems_keeps_unknown_key :
    let items : List Item := [.compare ⟨1, 1⟩ .gt (.group ⟨1, 2⟩
      [.pair ⟨1, 3⟩ (.word ⟨1, 3⟩ "nope") (.word ⟨1, 8⟩ "b")])]
    Query.parse Query.defaultLimit ">(nope:b)" = .ok items ∧
      Schema.empty.castItems startOf2025 items = .ok items ∧
      ¬ ∀ p ∈ pairsAll items, ∃ cast,
        Schema.empty.castPair (nameOf p.1) p.2 startOf2025 = .ok cast := by
  refine ⟨rfl, rfl, fun h => ?_⟩
  obtain ⟨_, hcast⟩ := h (.word ⟨1, 3⟩ "nope", .word ⟨1, 8⟩ "b") List.mem_cons_self
  cases hcast

end SearchQuery.Schema
