import Mathlib.Data.List.Basic
import Mathlib.Tactic.Common
import SearchQuery.Document.Matcher

/-!
# The Boolean reading of queries

What a query says of a document is put together from what its leaves say. An answer is a truth
value, or the error for which there is none, so that the equations below also say what compiles.

* `Item.readingAll`: what items say by what their leaves say.
* `Item.Distributes`: a question about values goes to the parts of lists, groups and connectives.
* `Matcher.answer_compositional`: queries are answered by their reading, and an operator under a
  field distributes.
-/

namespace SearchQuery

/-! ## Answers by parts -/

namespace Item

variable {ε : Type}

/-- Whether the answer is yes for all of the items. -/
def allOf (ask : Item → Except ε Bool) : List Item → Except ε Bool
  | [] => .ok true
  | item :: items => do return (← ask item) && (← allOf ask items)

/-- Whether the answer is yes for one of the items. -/
def anyOf (ask : Item → Except ε Bool) : List Item → Except ε Bool
  | [] => .ok false
  | item :: items => do return (← ask item) || (← anyOf ask items)

mutual

/-- What an item says, by what the leaves say: a group is a conjunction, and so is all that stands
to the right of a keyword. -/
def reading (ask : Item → Except ε Bool) : Item → Except ε Bool
  | group _ items => readingAll ask items
  | and _ left right => do return (← reading ask left) && (← readingAll ask right)
  | or _ left right => do return (← reading ask left) || (← readingAll ask right)
  | not _ operand => (reading ask operand).map (!·)
  | leaf => ask leaf

/-- What several items say together. -/
def readingAll (ask : Item → Except ε Bool) : List Item → Except ε Bool
  | [] => .ok true
  | item :: items => do return (← reading ask item) && (← readingAll ask items)

end

/-- A question is answered for a list as for one of its elements, for a group as for all of its
items, and for the connectives as they say. -/
structure Distributes (ask : Item → Except ε Bool) : Prop where
  list (pos : Position) (items : List Item) : ask (.list pos items) = anyOf ask items
  group (pos : Position) (items : List Item) : ask (.group pos items) = allOf ask items
  and (pos : Position) (left : Item) (right : List Item) :
    ask (.and pos left right) = do return (← ask left) && (← allOf ask right)
  or (pos : Position) (left : Item) (right : List Item) :
    ask (.or pos left right) = do return (← ask left) || (← allOf ask right)
  not (pos : Position) (operand : Item) : ask (.not pos operand) = (ask operand).map (!·)

end Item

/-! ## Tests -/

namespace Operator

theorem positive_of_not_isNegative {op : Operator} (h : op.isNegative = false) :
    op.positive = op := by
  cases op <;> first | rfl | cases h

theorem testBy_of_not_isNegative {op : Operator} (h : op.isNegative = false) (test : Test) :
    op.testBy test = test := by
  rw [testBy, h]
  rfl

end Operator

namespace Test

open Item

variable {field : String} {op : Operator} {doc : Json} {slot : Option Json}

/-- A negative operator denies the test of its positive one. -/
theorem ofItem_eq_testBy (field : String) (op : Operator) (item : Item) :
    ofItem field op item = op.testBy <$> ofItem field op.positive item := by
  have hpositive : op.positive.positive = op.positive :=
    Operator.positive_of_not_isNegative op.isNegative_positive
  have htest : op.positive.testBy = id :=
    funext (Operator.testBy_of_not_isNegative op.isNegative_positive)
  cases item <;> simp only [ofItem, hpositive, htest, id_map]

theorem passes_conjunction (tests : List Test) :
    (conjunction tests).passes doc slot = passesAll doc slot tests := by
  match tests with
  | [] | _ :: _ :: _ => rw [conjunction, passes]; simp
  | [test] => rw [conjunction, passesAll, passesAll, Bool.and_true]

/-- What the test of an item says of a slot. -/
def answer (doc : Json) (slot : Option Json) (field : String) (op : Operator) (item : Item) :
    Except MatchError Bool :=
  (ofItem field op item).map (passes doc slot)

theorem map_passesAll (items : List Item) :
    (ofItems field op items).map (passesAll doc slot) = allOf (answer doc slot field op) items := by
  induction items with
  | nil => rfl
  | cons item items ih =>
    rw [ofItems, allOf, ← ih, answer]
    cases ofItem field op item <;> cases ofItems field op items <;> rfl

theorem map_passesAny (items : List Item) :
    (ofItems field op items).map (passesAny doc slot) = anyOf (answer doc slot field op) items := by
  induction items with
  | nil => rfl
  | cons item items ih =>
    rw [ofItems, anyOf, ← ih, answer]
    cases ofItem field op item <;> cases ofItems field op items <;> rfl

/-- A test of a list asks for one element, one of a group for all items, and those of connectives
ask what these say. -/
theorem distributes_answer (doc : Json) (slot : Option Json) (field : String)
    (hop : op.isNegative = false) : Distributes (answer doc slot field op) := by
  have hpositive : op.positive = op := Operator.positive_of_not_isNegative hop
  have htest : op.testBy = id := funext (Operator.testBy_of_not_isNegative hop)
  constructor
  case list =>
    intro pos items
    rw [answer, ofItem, hpositive, htest, id_map, ← map_passesAny]
    cases ofItems field op items with
    | error e => rfl
    | ok tests => simp [Except.map, Functor.map, passes]
  case group =>
    intro pos items
    rw [answer, ofItem, hpositive, htest, id_map, ← map_passesAll]
    cases ofItems field op items with
    | error e => rfl
    | ok tests => simp [Except.map, Functor.map, passes_conjunction]
  case and =>
    intro pos left right
    rw [answer, ofItem, hpositive, htest, id_map, ← map_passesAll, answer]
    cases ofItem field op left <;> cases ofItems field op right <;>
      simp [Except.map, bind, Except.bind, pure, Except.pure, passes, passesAll]
  case or =>
    intro pos left right
    rw [answer, ofItem, hpositive, htest, id_map, ← map_passesAll, answer]
    cases ofItem field op left <;> cases ofItems field op right <;>
      simp [Except.map, bind, Except.bind, pure, Except.pure, passes, passesAny]
  case not =>
    intro pos operand
    rw [answer, ofItem, hpositive, htest, id_map, answer]
    cases ofItem field op operand <;> simp [Except.map, Functor.map, passes]

/-- A negative operator says the opposite of its positive one. -/
theorem answer_of_isNegative (hop : op.isNegative) (item : Item) :
    answer doc slot field op item = (answer doc slot field op.positive item).map (!·) := by
  rw [answer, ofItem_eq_testBy, answer]
  cases ofItem field op.positive item with
  | error e => rfl
  | ok test => simp [Except.map, Functor.map, Operator.testBy, hop, passes]

end Test

/-! ## Queries -/

namespace Matcher

open Item

variable {doc : Json} {pos place : Position} {key value : Item} {field : String} {op : Operator}

/-- What a query says of a document. -/
def answer (doc : Json) (items : List Item) : Except MatchError Bool :=
  (ofItems items).map (accepts doc)

theorem accepts_all (matchers : List Matcher) :
    (builder.all matchers).accepts doc = acceptsAll doc matchers := by
  match matchers with
  | [] => rfl
  | [matcher] => rw [acceptsAll, acceptsAll, Bool.and_true]; rfl
  | matcher :: matcher' :: matchers =>
    show accepts doc (all _) = _
    rw [accepts]

theorem answer_eq (doc : Json) (items : List Item) :
    answer doc items = (builder.buildItems items).map (acceptsAll doc) := by
  rw [answer, ofItems, PredicateBuilder.build]
  cases builder.buildItems items with
  | error e => rfl
  | ok matchers => exact congrArg Except.ok (accepts_all matchers)

theorem answer_singleton (doc : Json) (item : Item) :
    answer doc [item] = (builder.buildItem item).map (accepts doc) := by
  rw [answer_eq, PredicateBuilder.buildItems, PredicateBuilder.buildItems]
  cases builder.buildItem item with
  | error e => rfl
  | ok matcher =>
    simp [bind, Except.bind, pure, Except.pure, Except.map, acceptsAll]

mutual

/-- The matcher of an item answers as the item reads, by the matchers of its leaves. -/
theorem answer_reading (doc : Json) : (item : Item) →
    (builder.buildItem item).map (accepts doc) = reading (fun leaf => answer doc [leaf]) item
  | .group _ items => by
    rw [PredicateBuilder.buildItem, reading, ← answers_readingAll doc items]
    cases builder.buildItems items with
    | error e => rfl
    | ok matchers => exact congrArg Except.ok (accepts_all matchers)
  | .and _ left right => by
    rw [PredicateBuilder.buildItem, reading, ← answer_reading doc left,
      ← answers_readingAll doc right]
    cases builder.buildItem left <;> cases builder.buildItems right <;>
      simp [Except.map, bind, Except.bind, pure, Except.pure, accepts_all, acceptsAll]
  | .or _ left right => by
    rw [PredicateBuilder.buildItem, reading, ← answer_reading doc left,
      ← answers_readingAll doc right]
    have hany (matchers : List Matcher) : builder.any matchers = any matchers := rfl
    cases builder.buildItem left <;> cases builder.buildItems right <;>
      simp [Except.map, bind, Except.bind, pure, Except.pure, hany, accepts, acceptsAny,
        accepts_all]
  | .not _ operand => by
    rw [PredicateBuilder.buildItem, reading, ← answer_reading doc operand]
    have hnegate (matcher : Matcher) : builder.negate matcher = not matcher := rfl
    cases builder.buildItem operand <;>
      simp [Except.map, bind, Except.bind, pure, Except.pure, hnegate, accepts]
  | .null _ | .infinity _ | .wildcard _ | .anyChar _ | .word _ _ | .quote _ _ | .value _ _
  | .pin _ _ | .pair _ _ _ | .compare _ _ _ | .range _ _ _ | .list _ _ | .pattern _ _ =>
    (answer_singleton doc _).symm

/-- The matchers of items answer together as the items read. -/
theorem answers_readingAll (doc : Json) : (items : List Item) →
    (builder.buildItems items).map (acceptsAll doc) =
      readingAll (fun leaf => answer doc [leaf]) items
  | [] => rfl
  | item :: items => by
    rw [PredicateBuilder.buildItems, readingAll, ← answer_reading doc item,
      ← answers_readingAll doc items]
    cases builder.buildItem item <;> cases builder.buildItems items <;> rfl

end

/-- A pair compiles into the test of its value, put to the field. -/
theorem ofItems_pair (hkey : key.fieldName? = some field) :
    ofItems [.pair pos key value] = (Test.ofItem field .eq value).map (.field field) := by
  simp only [ofItems, PredicateBuilder.build, PredicateBuilder.buildItems,
    PredicateBuilder.buildItem, hkey, builder]
  cases Test.ofItem field .eq value <;> rfl

theorem answer_pair (hkey : key.fieldName? = some field) (doc : Json) (pos : Position)
    (value : Item) : answer doc [.pair pos key value] =
      Test.answer doc (doc.lookup? field) field .eq value := by
  rw [answer, ofItems_pair hkey, Test.answer]
  cases Test.ofItem field .eq value with
  | error e => rfl
  | ok test => simp [Except.map, accepts]

/-- A comparison under a field asks whether the slot of the field is in relation to the operand. -/
theorem answer_pair_compare (hkey : key.fieldName? = some field) (doc : Json) (pos place : Position)
    (op : Operator) (value : Item) : answer doc [.pair pos key (.compare place op value)] =
      Test.answer doc (doc.lookup? field) field op value := by
  rw [answer_pair hkey, Test.answer, Test.answer, Test.ofItem]
  cases Test.ofItem field op value <;> rfl

/-- **Compositional matching.** A query answers of a document what its items say together, each by
the answers of its leaves alone. A positive operator under a field distributes over the items behind
it, and a negative one says the opposite of its positive one. -/
theorem answer_compositional (hop : op.isNegative = false) (hkey : key.fieldName? = some field)
    (doc : Json) (pos place : Position) :
    (∀ items, answer doc items = readingAll (fun leaf => answer doc [leaf]) items) ∧
      Distributes (fun v => answer doc [.pair pos key (.compare place op v)]) ∧
      (∀ v, answer doc [.pair pos key (.compare place .neq v)] =
        (answer doc [.pair pos key (.compare place .eq v)]).map (!·)) ∧
      ∀ v, answer doc [.pair pos key (.compare place .nfuzz v)] =
        (answer doc [.pair pos key (.compare place .fuzz v)]).map (!·) := by
  refine ⟨fun items => ?_, ?_, fun v => ?_, fun v => ?_⟩
  · rw [answer_eq, answers_readingAll]
  · simp only [answer_pair_compare hkey]
    exact Test.distributes_answer doc (doc.lookup? field) field hop
  · simp only [answer_pair_compare hkey]
    exact Test.answer_of_isNegative rfl v
  · simp only [answer_pair_compare hkey]
    exact Test.answer_of_isNegative rfl v

/-- Not to have one of two tags: the tags of the document are an array, and one of them is the first
that the query names. -/
theorem answer_compositional_array :
    let doc : Json := .object [("tag", .array [.string "a", .string "b"])]
    let key : Item := .word ⟨1, 1⟩ "tag"
    let named : Item := .list ⟨1, 7⟩ [.word ⟨1, 7⟩ "a", .word ⟨1, 9⟩ "c"]
    Operator.eq.isNegative = false ∧ key.fieldName? = some "tag" ∧
      answer doc [.pair ⟨1, 1⟩ key (.compare ⟨1, 5⟩ .neq (.group ⟨1, 6⟩ [named]))] = .ok false := by
  intro doc key named
  obtain ⟨-, hdistributes, hneq, -⟩ :=
    @answer_compositional key "tag" .eq rfl rfl doc ⟨1, 1⟩ ⟨1, 5⟩
  have hgroup := hdistributes.group ⟨1, 6⟩ [named]
  have hlist := hdistributes.list ⟨1, 7⟩ [.word ⟨1, 7⟩ "a", .word ⟨1, 9⟩ "c"]
  refine ⟨rfl, rfl, ?_⟩
  rw [hneq, hgroup, allOf, hlist]
  rfl

end Matcher

end SearchQuery
