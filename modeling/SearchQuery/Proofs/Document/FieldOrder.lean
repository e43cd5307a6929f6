import SearchQuery.Proofs.Document.Reading
import SearchQuery.Proofs.Number.Double

/-!
# Comparing two fields

A pin makes a comparison one of two fields of the same document: the slot of the field before the
colon holds the value, and the field behind the pin the operand.

* `Json.order?_swap`: two JSON values in the other order.
* `Test.passes_field`: a comparison with a field, by what the two fields hold.
* `Matcher.accepts_pin_converse`: two fields compare in either direction alike.
-/

namespace SearchQuery

/-- The operator that holds of two values in the other order. -/
def Operator.converse : Operator → Operator
  | .gt => .lt
  | .gte => .lte
  | .lt => .gt
  | .lte => .gte
  | op => op

/-! ## Values -/

namespace Json

/-- Two values in the other order. -/
theorem order?_swap (a b : Json) : (a.order? b).map Ordering.swap = b.order? a := by
  have hfloat := Number.compareFloat_swap
  have hbool (p q : Bool) : (compare p q).swap = compare q p := Std.OrientedOrd.eq_swap.symm
  have htext (s t : String) : (compare s t).swap = compare t s := Std.OrientedOrd.eq_swap.symm
  cases a with
  | number m =>
    cases b with
    | number n => exact hfloat m.toFloat n.toFloat
    | string t =>
      rw [order?, order?]
      cases (Number.readFloat t).toOption with
      | none => rfl
      | some x => exact hfloat m.toFloat x
    | _ => rfl
  | string s =>
    cases b with
    | number n =>
      rw [order?, order?]
      cases (Number.readFloat s).toOption with
      | none => rfl
      | some x => exact hfloat x n.toFloat
    | string t => exact congrArg some (htext s t)
    | bool q =>
      rw [order?, order?]
      cases truth? s with
      | none => rfl
      | some p => exact congrArg some (hbool p q)
    | _ => rfl
  | bool p =>
    cases b with
    | bool q => exact congrArg some (hbool p q)
    | string t =>
      rw [order?, order?]
      cases truth? t with
      | none => rfl
      | some q => exact congrArg some (hbool p q)
    | _ => rfl
  | null => cases b <;> rfl
  | array | object => cases b <;> rfl

/-- Null compares with nothing else. -/
theorem order?_null {b : Json} (h : b.isNull = false) : null.order? b = none := by
  cases b with
  | null => cases h
  | _ => rfl

end Json

namespace Operator

variable {op : Operator}

@[simp]
theorem positive_converse (op : Operator) : op.converse.positive = op.positive.converse := by
  cases op <;> rfl

@[simp]
theorem isNegative_converse (op : Operator) : op.converse.isNegative = op.isNegative := by
  cases op <;> rfl

theorem positive_converse_ne_fuzz (h : op.positive ≠ .fuzz) : op.converse.positive ≠ .fuzz := by
  cases op <;> first | exact absurd rfl h | nofun

theorem admits_converse (op : Operator) (o : Ordering) :
    op.converse.admits o.swap = op.admits o := by
  cases op <;> cases o <;> rfl

/-- An operator that compares holds of two values just if its converse holds the other way round. -/
theorem holds_converse (hop : op.positive ≠ .fuzz) (a b : Json) :
    op.converse.holds b a = op.holds a b := by
  have hvalue {op : Operator} (hop : op.positive ≠ .fuzz) (v w : Json) :
      op.holds v w = ((v.order? w).map op.admits).getD (op == .neq) := by
    cases op <;> first | rfl | exact absurd rfl hop
  have hneq : (op.converse == neq) = (op == neq) := by
    cases op <;> rfl
  rw [hvalue (positive_converse_ne_fuzz hop), hvalue hop, ← Json.order?_swap, hneq]
  cases a.order? b with
  | none => rfl
  | some o => exact congrArg (Option.getD · _) (congrArg some (op.admits_converse o))

/-- A positive operator that compares holds between null and nothing else. -/
theorem holds_null (hop : op.positive ≠ .fuzz) (hpositive : op.isNegative = false) {b : Json}
    (hb : b.isNull = false) : op.holds .null b = false := by
  cases op with
  | fuzz => exact absurd rfl hop
  | neq | nfuzz => cases hpositive
  | _ => simp [holds, Json.order?_null hb]

end Operator

/-! ## Fields -/

/-- The value is none that is tested element by element. -/
def Json.IsSingle (v : Json) : Prop := ∀ elements, v ≠ .array elements

theorem Json.IsSingle.slotValues {v : Json} (h : v.IsSingle) : slotValues (some v) = [v] := by
  cases v with
  | array elements => exact absurd rfl (h elements)
  | _ => rfl

namespace Test

variable {op : Operator} {doc : Json} {slot : Option Json} {p q : String}

theorem passes_testBy (op : Operator) (test : Test) :
    (op.testBy test).passes doc slot = (op.isNegative ^^ test.passes doc slot) := by
  rw [Operator.testBy]
  cases op.isNegative with
  | false => rw [if_neg Bool.false_ne_true, Bool.false_xor]
  | true => rw [if_pos rfl, passes, Bool.true_xor]

/-- A comparison with a field holds just if it does of the values of both fields, null apart. -/
theorem passes_field (hop : op.positive ≠ .fuzz) (hpositive : op.isNegative = false)
    (hsingle : ∀ v, doc.lookup? p = some v → v.IsSingle) :
    (compare op (.field q)).passes doc (doc.lookup? p) =
      ((Operand.field p).resolve? doc).any fun v =>
        ((Operand.field q).resolve? doc).any fun w => op.holds v w := by
  have hleft : (Operand.field p).resolve? doc = (doc.lookup? p).filter fun v => !v.isNull := rfl
  rw [passes, hleft]
  cases hp : doc.lookup? p with
  | none => rfl
  | some v =>
    rw [(hsingle v hp).slotValues, List.any_cons, List.any_nil, Bool.or_false, comparison]
    cases hq : (Operand.field q).resolve? doc with
    | none => simp
    | some w =>
      have hw : w.isNull = false := by
        simpa using (Option.filter_eq_some_iff.1 hq).2
      cases v with
      | null => exact Operator.holds_null hop hpositive hw
      | _ => rfl

/-- A comparison of two fields holds just if its converse holds the other way round. -/
theorem passes_field_converse (hop : op.positive ≠ .fuzz) (hpositive : op.isNegative = false)
    (hp : ∀ v, doc.lookup? p = some v → v.IsSingle)
    (hq : ∀ v, doc.lookup? q = some v → v.IsSingle) :
    (compare op.converse (.field p)).passes doc (doc.lookup? q) =
      (compare op (.field q)).passes doc (doc.lookup? p) := by
  rw [passes_field (Operator.positive_converse_ne_fuzz hop)
    (op.isNegative_converse.trans hpositive) hq, passes_field hop hpositive hp]
  cases (Operand.field p).resolve? doc with
  | none => cases (Operand.field q).resolve? doc <;> rfl
  | some v =>
    cases (Operand.field q).resolve? doc with
    | none => rfl
    | some w => exact op.holds_converse hop v w

end Test

namespace Matcher

variable {op : Operator} {p q : String} {key key' target target' : Item}

/-- A comparison with a pin compiles into one with the field that the pin names. -/
theorem ofItems_pin (op : Operator) (pos place place' : Position) (hkey : key.fieldName? = some p)
    (htarget : target.fieldName? = some q) :
    ofItems [.pair pos key (.compare place op (.pin place' target))] =
      .ok (.field p (op.testBy (.compare op.positive (.field q)))) := by
  have hname : target.fieldName?.getD "" = q := by rw [htarget]; rfl
  rw [ofItems_pair hkey, Test.ofItem, Test.ofItem, hname]
  rfl

/-- **Comparing two fields.** Where neither field holds an array, a document matches a comparison
of the first field with the second just if it matches the converse comparison of the second with
the first, whatever the two hold. -/
theorem accepts_pin_converse (hop : op.positive ≠ .fuzz) (hkey : key.fieldName? = some p)
    (htarget : target.fieldName? = some q) (hkey' : key'.fieldName? = some q)
    (htarget' : target'.fieldName? = some p) (pos place place' : Position) :
    ∃ there back : Matcher,
      ofItems [.pair pos key (.compare place op (.pin place' target))] = .ok there ∧
      ofItems [.pair pos key' (.compare place op.converse (.pin place' target'))] = .ok back ∧
      ∀ doc : Json, (∀ v, doc.lookup? p = some v → v.IsSingle) →
        (∀ v, doc.lookup? q = some v → v.IsSingle) → there.accepts doc = back.accepts doc := by
  refine ⟨_, _, ofItems_pin op pos place place' hkey htarget,
    ofItems_pin op.converse pos place place' hkey' htarget', fun doc hp hq => ?_⟩
  have hpositive : op.positive.positive ≠ .fuzz := by
    rwa [Operator.positive_of_not_isNegative op.isNegative_positive]
  have hfields := Test.passes_field_converse hpositive op.isNegative_positive hp hq
  rw [accepts, accepts, Test.passes_testBy, Test.passes_testBy, Operator.positive_converse,
    Operator.isNegative_converse, hfields]

/-- A number is after the number that a string spells, so the string comes before it. -/
theorem accepts_pin_converse_number :
    let doc : Json := .object [("left", .number (.integer 10)), ("right", .string "9.5")]
    let left : Item := .word ⟨1, 1⟩ "left"
    let right : Item := .quote ⟨1, 1⟩ "right"
    Operator.gt.positive ≠ .fuzz ∧ (∀ v, doc.lookup? "left" = some v → v.IsSingle) ∧
      (∀ v, doc.lookup? "right" = some v → v.IsSingle) ∧
      answer doc [.pair ⟨1, 1⟩ left (.compare ⟨1, 7⟩ .gt (.pin ⟨1, 8⟩ right))] = .ok true ∧
      answer doc [.pair ⟨1, 1⟩ right (.compare ⟨1, 7⟩ .lt (.pin ⟨1, 8⟩ left))] = .ok true := by
  intro doc left right
  have hleft : ∀ v, doc.lookup? "left" = some v → v.IsSingle := by
    rintro v ⟨⟩
    nofun
  have hright : ∀ v, doc.lookup? "right" = some v → v.IsSingle := by
    rintro v ⟨⟩
    nofun
  obtain ⟨there, back, hthere, hback, h⟩ := @accepts_pin_converse .gt "left" "right" left right
    right left (by decide) rfl rfl rfl rfl ⟨1, 1⟩ ⟨1, 7⟩ ⟨1, 8⟩
  have hfound : answer doc [.pair ⟨1, 1⟩ left (.compare ⟨1, 7⟩ .gt (.pin ⟨1, 8⟩ right))] =
      .ok true := by
    rfl
  refine ⟨by decide, hleft, hright, hfound, ?_⟩
  rw [answer, hthere] at hfound
  rw [answer, show Operator.lt = Operator.gt.converse from rfl, hback]
  rw [← hfound]
  exact congrArg Except.ok (h doc hleft hright).symm

end Matcher

end SearchQuery
