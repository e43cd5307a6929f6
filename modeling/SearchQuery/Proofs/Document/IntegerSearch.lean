import SearchQuery.Command.Check
import SearchQuery.Document.Matcher
import SearchQuery.Proofs.Number.Double
import SearchQuery.Proofs.Schema.Casting

/-!
# Searching for integers

Under an integer field the literal of a comparison becomes an integer of 64 bits, and the matcher
compares it with the integers of documents as doubles (`applySchema_integer`, `ofItems_integer`).

* `search_integer_iff`: what is found is what the operator asks for, but for integers that are one
  double with the literal and that the operator tells apart.
-/

namespace SearchQuery

namespace Operator

/-- What an operator says of two integers. -/
def Relates : Operator → Int → Int → Prop
  | .gt, m, n => n < m
  | .gte, m, n => n ≤ m
  | .lt, m, n => m < n
  | .lte, m, n => m ≤ n
  | .eq, m, n => m = n
  | _, m, n => m ≠ n

theorem admits_compare_iff (op : Operator) (m n : Int) :
    op.admits (compare m n) ↔ op.Relates m n := by
  rcases Int.lt_trichotomy m n with hlt | rfl | hgt
  · rw [Int.compare_eq_lt.2 hlt]
    cases op <;> simp [admits, Relates] <;> omega
  · rw [Int.compare_eq_eq.2 rfl]
    cases op <;> simp [admits, Relates]
  · rw [Int.compare_eq_gt.2 hgt]
    cases op <;> simp [admits, Relates] <;> omega

/-- The two integers are one double, but the operator tells the first from the second. -/
def Blurs (op : Operator) (m n : Int) : Prop :=
  Number.nearestInt m = Number.nearestInt n ∧ ¬ (op.Relates m n ↔ op.Relates n n)

theorem Blurs.ne {op : Operator} {m n : Int} (h : op.Blurs m n) : m ≠ n := by
  rintro rfl
  exact h.2 Iff.rfl

/-- Integers of up to 53 digits are never blurred. -/
theorem not_blurs (op : Operator) {m n : Int} (hm : m.natAbs ≤ 2 ^ 53) (hn : n.natAbs ≤ 2 ^ 53) :
    ¬ op.Blurs m n := by
  intro h
  refine h.ne ?_
  rw [← Number.nearestInt_eq hm, h.1, Number.nearestInt_eq hn]

/-- An operator says the same of two integers as of the doubles, unless it blurs them. -/
theorem relates_nearestInt_iff (op : Operator) (m n : Int) :
    (op.Relates (Number.nearestInt m) (Number.nearestInt n) ↔ op.Relates m n) ↔
      ¬ op.Blurs m n := by
  by_cases h : Number.nearestInt m = Number.nearestInt n
  · have hself (k : Int) : op.Relates k k ↔ op.Relates n n := by
      cases op <;> simp [Relates]
    rw [Blurs, h, hself]
    simp [iff_comm]
  · refine iff_of_true ?_ fun hblurs => h hblurs.1
    have hbelow := fun hle => @Number.nearestInt_le m n hle
    have habove := fun hle => @Number.nearestInt_le n m hle
    rcases Int.lt_trichotomy m n with hlt | rfl | hgt
    · cases op <;> simp only [Relates] <;> omega
    · exact absurd rfl h
    · cases op <;> simp only [Relates] <;> omega

end Operator

section Search

variable {schema : Schema} {op : Operator} {raw name field : String} {now : DateTime} {n : Int64}
  {pos place : Position} {key value : Item}

theorem castItems_integer (hrule : schema.lookup? name = some ⟨field, .type .integer⟩)
    (hkey : key.fieldName? = some name) (hvalue : value.text? = some raw)
    (hread : Number.readInt64 raw = .ok n) :
    schema.castItems now [.pair pos key (.compare place op value)] =
      .ok [.pair pos (.word key.position field)
        (.compare place op (.value value.position (.integer n)))] := by
  have hcast : Kind.integer.cast raw now = .ok (.integer n) := by rw [Kind.cast, hread]
  refine (Schema.castItems_pair hkey).2 ⟨field, _, Schema.castPair_type hrule ?_, rfl⟩
  rw [Schema.castValue, Schema.castValue_text hvalue hcast]
  rfl

/-- Under an integer field the literal of a comparison becomes an integer. -/
theorem applySchema_integer (hrule : schema.lookup? name = some ⟨field, .type .integer⟩)
    (hkey : key.fieldName? = some name) (hvalue : value.text? = some raw)
    (hread : Number.readInt64 raw = .ok n) :
    Command.applySchema now schema [.pair pos key (.compare place op value)] =
      .ok [.pair pos (.word key.position field)
        (.compare place op (.value value.position (.integer n)))] := by
  have hbounds (kind : Option TemporalKind) :
      (Item.compare place op (.value value.position (.integer n))).resolveBounds field kind =
        .ok (.compare place op (.value value.position (.integer n))) := by
    cases op <;> rfl
  simp only [Command.applySchema, castItems_integer hrule hkey hvalue hread, Schema.resolveItems,
    Schema.resolveItem, bind, pure, Except.bind, Except.pure]
  rw [show Schema.nameOf (.word key.position field) = field from rfl, hbounds]

/-- A comparison with an integer compiles into one of the field with the number. -/
theorem ofItems_integer (op : Operator) (field : String) (n : Int64)
    (pos place place' place'' : Position) :
    Matcher.ofItems [.pair pos (.word place field)
        (.compare place' op (.value place'' (.integer n)))] =
      .ok (.field field
        (op.testBy (.compare op.positive (.literal (.number (.integer n.toInt)))))) := by
  cases op <;> rfl

/-- An integer of a document is compared as a double. -/
theorem accepts_integer (hop : op.positive ≠ .fuzz) {m n : Int} (hm : m.natAbs < 2 ^ 64)
    (hn : n.natAbs < 2 ^ 64) :
    Matcher.accepts (.object [(field, .number (.integer m))])
        (.field field (op.testBy (.compare op.positive (.literal (.number (.integer n)))))) ↔
      op.Relates (Number.nearestInt m) (Number.nearestInt n) := by
  have horder := JsonNumber.compareFloat_toFloat hm hn
  rw [← Operator.admits_compare_iff, Matcher.accepts, Json.lookup?_single]
  generalize compare (Number.nearestInt m) (Number.nearestInt n) = o at horder
  cases op
  case fuzz | nfuzz => exact absurd rfl hop
  all_goals
    simp [Operator.testBy, Operator.isNegative, Operator.positive, Test.passes, Json.slotValues,
      Test.comparison, Operand.resolve?, Operator.holds, Json.order?, horder, Operator.admits]

/-- **Search for an integer.** Under an integer field a comparison finds those integers of 64 bits
that it asks for, and no others, but for integers that are one double with its literal: of these it
finds all or none. -/
theorem search_integer_iff (hop : op.positive ≠ .fuzz)
    (hrule : schema.lookup? name = some ⟨field, .type .integer⟩) (hkey : key.fieldName? = some name)
    (hvalue : value.text? = some raw) (hread : Number.readInt64 raw = .ok n) :
    ∃ (items : List Item) (matcher : Matcher),
      Command.applySchema now schema [.pair pos key (.compare place op value)] = .ok items ∧
      Matcher.ofItems items = .ok matcher ∧
      ∀ m : Int64,
        (matcher.accepts (.object [(field, .number (.integer m.toInt))]) ↔
            op.Relates m.toInt n.toInt) ↔
          ¬ op.Blurs m.toInt n.toInt := by
  refine ⟨_, _, applySchema_integer hrule hkey hvalue hread,
    ofItems_integer op field n pos key.position place value.position, fun m => ?_⟩
  have hsize (k : Int64) : k.toInt.natAbs < 2 ^ 64 := by
    have hbelow := k.le_toInt
    have habove := k.toInt_lt
    omega
  rw [accepts_integer hop (hsize m) (hsize n)]
  exact op.relates_nearestInt_iff m.toInt n.toInt

end Search

/-- The moment at which the queries below are cast. -/
def startOf1970 : DateTime := ⟨⟨1970, 1, 1, by decide⟩, .midnight⟩

/-- The last integer of 53 digits is told from the next one. -/
theorem search_integer_iff_last :
    Number.readInt64 "9007199254740991" = .ok 9007199254740991 ∧
    ∃ items matcher,
      Command.applySchema startOf1970 (Schema.empty.insert "id" ⟨"number", .type .integer⟩)
          [.pair ⟨1, 1⟩ (.word ⟨1, 1⟩ "id")
            (.compare ⟨1, 4⟩ .gt (.word ⟨1, 5⟩ "9007199254740991"))] = .ok items ∧
      Matcher.ofItems items = .ok matcher ∧
      matcher.accepts (.object [("number", .number (.integer 9007199254740992))]) := by
  have hread : Number.readInt64 "9007199254740991" = .ok 9007199254740991 := rfl
  obtain ⟨items, matcher, hitems, hmatcher, h⟩ :=
    @search_integer_iff (Schema.empty.insert "id" ⟨"number", .type .integer⟩) .gt
      "9007199254740991" "id" "number" startOf1970 _ ⟨1, 1⟩ ⟨1, 4⟩ (.word ⟨1, 1⟩ "id")
      (.word ⟨1, 5⟩ "9007199254740991") (by decide) rfl rfl rfl hread
  have hsharp := Operator.not_blurs .gt (m := 9007199254740992) (n := 9007199254740991) (by decide)
    (by decide)
  refine ⟨hread, items, matcher, hitems, hmatcher, ((h 9007199254740992).2 hsharp).2 ?_⟩
  change (9007199254740991 : Int) < 9007199254740992
  decide

/-- The first integer that is no double is not told from the one before it. -/
theorem search_integer_finds_other :
    ∃ items matcher,
      Command.applySchema startOf1970 (Schema.empty.insert "f" ⟨"f", .type .integer⟩)
          [.pair ⟨1, 1⟩ (.word ⟨1, 1⟩ "f")
            (.compare ⟨1, 3⟩ .eq (.word ⟨1, 4⟩ "9007199254740993"))] = .ok items ∧
      Matcher.ofItems items = .ok matcher ∧
      matcher.accepts (.object [("f", .number (.integer 9007199254740992))]) ∧
      ¬ Operator.eq.Relates 9007199254740992 9007199254740993 := by
  refine ⟨_, _, applySchema_integer (n := 9007199254740993) rfl rfl rfl rfl,
    ofItems_integer .eq "f" 9007199254740993 ⟨1, 1⟩ ⟨1, 1⟩ ⟨1, 3⟩ ⟨1, 4⟩, ?_, ?_⟩
  · refine (accepts_integer (by decide) (by decide) (by decide)).2 ?_
    change Number.nearestInt 9007199254740992 = Number.nearestInt 9007199254740993
    decide +kernel
  · change (9007199254740992 : Int) ≠ 9007199254740993
    decide

end SearchQuery
