import Mathlib.Data.List.Basic
import Mathlib.Tactic.Common
import SearchQuery.Proofs.Item.Nesting

/-!
# Which parts combine

A keyword lacks an operand if nothing follows it, and an `AND` or `OR` also if no item stands right
before it. Parts nest from the end, but the error is about the first keyword that lacks an operand:
`fault?` looks for it from the front.

* `combineAfter_eq_error_iff`: combining fails for the keyword that `fault?` finds.
* `combine_complete`: which parts combine, what is kept of them and where it fails otherwise.
-/

namespace SearchQuery.Part

open Item

/-- Whether the part joins what stands on both its sides. -/
def isJunction : Part → Bool
  | and _ | or _ => true
  | _ => false

/-- The error that an operand of the keyword is missing. -/
def missing? : Part → Option ParseError
  | item _ => none
  | and pos => some (.missingOperand .and pos)
  | or pos => some (.missingOperand .or pos)
  | not pos => some (.missingOperand .not pos)

/-- Whether the part is a keyword that lacks an operand between the part before it, if there is one,
and those after it. -/
def dangles (before? : Option Part) (part : Part) (after : List Part) : Bool :=
  part.isConnective && (after.isEmpty || part.isJunction && before?.all isConnective)

/-- The first keyword that lacks an operand. -/
def fault? (before? : Option Part) : List Part → Option Part
  | [] => none
  | part :: after => if dangles before? part after then some part else fault? (some part) after

/-- No keyword is last, and right before every `AND` and `OR` stands an item. -/
structure IsComplete (parts : List Part) : Prop where
  closed : ∀ part ∈ parts.getLast?, part.isConnective = false
  joined : ∀ before part after, parts = before ++ part :: after → part.isJunction →
    ∃ i, before.getLast? = some (.item i)

theorem dangles_iff {before? : Option Part} {part : Part} {after : List Part} :
    dangles before? part after ↔
      part.isConnective ∧ (after = [] ∨ part.isJunction ∧ ∀ i, before? ≠ some (.item i)) := by
  have hbefore : before?.all isConnective ↔ ∀ i, before? ≠ some (.item i) := by
    cases before? with
    | none => simp
    | some before => cases before <;> simp [isConnective]
  rw [dangles, Bool.and_eq_true, Bool.or_eq_true, Bool.and_eq_true, List.isEmpty_iff, hbefore]

/-! ## The first fault -/

theorem isSome_missing? (part : Part) : part.missing?.isSome = part.isConnective := by
  cases part <;> rfl

theorem getLast?_cons_or (part : Part) (parts : List Part) (before? : Option Part) :
    (part :: parts).getLast?.or before? = parts.getLast?.or (some part) := by
  rw [List.getLast?_cons]
  cases parts.getLast? <;> rfl

/-- What holds where a list is split holds where its first element is split off and where the others
are split. -/
theorem forall_split_cons {first : Part} {rest : List Part}
    {P : List Part → Part → List Part → Prop} :
    (∀ front part after, first :: rest = front ++ part :: after → P front part after) ↔
      P [] first rest ∧
        ∀ front part after, rest = front ++ part :: after → P (first :: front) part after := by
  constructor
  · intro h
    refine ⟨h [] first rest rfl, ?_⟩
    rintro front part after rfl
    exact h (first :: front) part after rfl
  · rintro ⟨hfirst, hrest⟩ front part after h
    rcases List.cons_eq_append_iff.1 h with ⟨rfl, hcons⟩ | ⟨front, rfl, hsplit⟩
    · cases hcons
      exact hfirst
    · exact hrest front part after hsplit

theorem fault?_eq_none_iff {before? : Option Part} {parts : List Part} :
    fault? before? parts = none ↔ ∀ front part after, parts = front ++ part :: after →
      dangles (front.getLast?.or before?) part after = false := by
  induction parts generalizing before? with
  | nil => simp [fault?]
  | cons first rest ih =>
    rw [fault?, forall_split_cons, List.getLast?_nil, Option.none_or]
    simp only [getLast?_cons_or]
    split
    · rename_i hfirst
      simp [hfirst]
    · rename_i hfirst
      simp [hfirst, ih]

theorem fault?_eq_some_iff {before? : Option Part} {parts : List Part} {part : Part} :
    fault? before? parts = some part ↔ ∃ front after, parts = front ++ part :: after ∧
      dangles (front.getLast?.or before?) part after ∧
      ∀ start other stop, front = start ++ other :: stop →
        dangles (start.getLast?.or before?) other (stop ++ part :: after) = false := by
  induction parts generalizing before? with
  | nil => simp [fault?]
  | cons first rest ih =>
    rw [fault?]
    split
    · rename_i hfirst
      constructor
      · rintro ⟨⟩
        exact ⟨[], rest, rfl, hfirst, by simp⟩
      · rintro ⟨front, after, hparts, hpart, hfront⟩
        cases front with
        | nil =>
          cases hparts
          rfl
        | cons other front =>
          -- The first part would be a fault before the first.
          obtain ⟨rfl, rfl⟩ := List.cons.inj hparts
          have hnone := hfront [] first front rfl
          exact absurd (hfirst.symm.trans hnone) nofun
    · rename_i hfirst
      rw [Bool.not_eq_true] at hfirst
      rw [ih]
      constructor
      · rintro ⟨front, after, rfl, hpart, hfront⟩
        refine ⟨first :: front, after, rfl, ?_, forall_split_cons.2 ⟨hfirst, ?_⟩⟩
        · rwa [getLast?_cons_or]
        · simpa only [getLast?_cons_or] using hfront
      · rintro ⟨front, after, hparts, hpart, hfront⟩
        cases front with
        | nil =>
          cases hparts
          rw [List.getLast?_nil, Option.none_or, hfirst] at hpart
          cases hpart
        | cons other front =>
          obtain ⟨rfl, rfl⟩ := List.cons.inj hparts
          have hothers := (forall_split_cons.1 hfront).2
          simp only [getLast?_cons_or] at hpart hothers
          exact ⟨front, after, rfl, hpart, hothers⟩

theorem fault?_isConnective {before? : Option Part} {parts : List Part} {part : Part}
    (h : fault? before? parts = some part) : part ∈ parts ∧ part.isConnective := by
  obtain ⟨front, after, rfl, hpart, -⟩ := fault?_eq_some_iff.1 h
  rw [dangles, Bool.and_eq_true] at hpart
  exact ⟨by simp, hpart.1⟩

/-! ## Combining -/

/-- A `NOT` stands before what follows it like nothing at all. -/
theorem fault?_not (pos : Position) (parts : List Part) :
    fault? (some (.not pos)) parts = fault? none parts := by
  cases parts <;> rfl

theorem fault?_nots (nots : List Position) {parts : List Part} (h : parts ≠ []) :
    fault? none (nots.map .not ++ parts) = fault? none parts := by
  induction nots with
  | nil => rfl
  | cons pos nots ih =>
    rw [List.map_cons, List.cons_append, fault?, if_neg (by simp [dangles, h, isJunction]),
      fault?_not, ih]

/-- An item stands before what follows it like nothing at all, unless that is an `AND` or `OR`. -/
theorem fault?_item (i : Item) {parts : List Part} (hand : ∀ pos rest, parts ≠ .and pos :: rest)
    (hor : ∀ pos rest, parts ≠ .or pos :: rest) :
    fault? (some (.item i)) parts = fault? none parts := by
  cases parts with
  | nil => rfl
  | cons part rest =>
    cases part with
    | and pos => exact absurd rfl (hand pos rest)
    | or pos => exact absurd rfl (hor pos rest)
    | _ => rfl

/-- After an `AND` or `OR` that has its operands the search starts anew. -/
theorem fault?_junction (i : Item) {junction : Part} (h : junction.isJunction) {rest : List Part}
    (hrest : rest ≠ []) : fault? none (.item i :: junction :: rest) = fault? none rest := by
  cases junction with
  | and pos | or pos =>
    simp only [fault?, dangles, isConnective, isJunction]
    cases rest with
    | nil => exact absurd rfl hrest
    | cons part rest => rfl
  | _ => cases h

/-- Combining fails just if some keyword lacks an operand, and for the first that does. -/
theorem combineAfter_eq_error_iff {nots : List Position} {parts : List Part} {e : ParseError} :
    combineAfter nots parts = .error e ↔
      (fault? none (nots.reverse.map .not ++ parts)).bind missing? = some e := by
  fun_induction combineAfter nots parts with
  | case1 => simp [fault?]
  | case2 pos nots =>
    rw [List.append_nil, List.reverse_cons, List.map_append, List.map_singleton,
      fault?_nots _ (by simp)]
    simp [fault?, dangles, isConnective, missing?]
  | case3 nots pos rest ih =>
    rw [List.reverse_cons, List.map_append, List.append_assoc] at ih
    exact ih
  | case4 nots pos rest | case5 nots pos rest =>
    rw [fault?_nots _ (by simp)]
    simp [fault?, dangles, isConnective, isJunction, missing?]
  | case6 nots i =>
    rw [fault?_nots _ (by simp)]
    simp [fault?, dangles, isConnective]
  | case7 nots i pos | case8 nots i pos =>
    rw [fault?_nots _ (by simp)]
    simp [fault?, dangles, isConnective, missing?]
  | case9 nots i pos rest hrest ih | case10 nots i pos rest hrest ih =>
    rw [Except.bind_return_eq_error, fault?_nots _ (by simp), fault?_junction i rfl hrest]
    exact ih
  | case11 nots i rest hnil hand hor hand' hor' ih =>
    rw [Except.bind_return_eq_error, fault?_nots _ (by simp), fault?,
      if_neg (by simp [dangles, isConnective]), fault?_item i hand' hor']
    exact ih

theorem combine_eq_error_iff {parts : List Part} {e : ParseError} :
    combine parts = .error e ↔ (fault? none parts).bind missing? = some e :=
  combineAfter_eq_error_iff

theorem combine_eq_ok_iff {parts : List Part} :
    (∃ items, combine parts = .ok items) ↔ fault? none parts = none := by
  cases hfault : fault? none parts with
  | some part =>
    have hmissing : part.missing?.isSome := by
      rw [isSome_missing?]
      exact (fault?_isConnective hfault).2
    obtain ⟨e, he⟩ := Option.isSome_iff_exists.1 hmissing
    have hfails : combine parts = .error e := combine_eq_error_iff.2 (by rw [hfault]; exact he)
    simp [hfails]
  | none =>
    refine iff_of_true ?_ rfl
    cases hcombine : combine parts with
    | ok items => exact ⟨items, rfl⟩
    | error e =>
      rw [combine_eq_error_iff, hfault] at hcombine
      cases hcombine

/-- A keyword that is reported is one of the parts. -/
theorem exists_missing_of_combine {parts : List Part} {e : ParseError}
    (h : combine parts = .error e) : ∃ part ∈ parts, part.missing? = some e := by
  obtain ⟨part, hpart, he⟩ := Option.bind_eq_some_iff.1 (combine_eq_error_iff.1 h)
  exact ⟨part, (fault?_isConnective hpart).1, he⟩

theorem isComplete_iff {parts : List Part} : IsComplete parts ↔ fault? none parts = none := by
  rw [fault?_eq_none_iff]
  simp only [Option.or_none]
  constructor
  · rintro ⟨hclosed, hjoined⟩ before part after rfl
    rw [← Bool.not_eq_true, dangles_iff]
    rintro ⟨hconnective, rfl | ⟨hjunction, hbefore⟩⟩
    · rw [hclosed part (by simp)] at hconnective
      cases hconnective
    · obtain ⟨i, hi⟩ := hjoined before part after rfl hjunction
      exact hbefore i hi
  · intro h
    refine ⟨?closed, ?joined⟩
    case closed =>
      intro part hpart
      obtain ⟨before, rfl⟩ := List.getLast?_eq_some_iff.1 hpart
      by_contra hconnective
      rw [Bool.not_eq_false] at hconnective
      have hlast : dangles before.getLast? part [] := dangles_iff.2 ⟨hconnective, .inl rfl⟩
      rw [h before part [] rfl] at hlast
      cases hlast
    case joined =>
      intro before part after hparts hjunction
      by_contra hbefore
      have hconnective : part.isConnective := by cases part <;> first | rfl | cases hjunction
      have hdangles : dangles before.getLast? part after :=
        dangles_iff.2 ⟨hconnective, .inr ⟨hjunction, fun i hi => hbefore ⟨i, hi⟩⟩⟩
      rw [h before part after hparts] at hdangles
      cases hdangles

/-- **Parts that combine.** Parts combine just if no keyword is last and an item stands right before
every `AND` and `OR`. The result has the same parts, keywords with their places. Where they do not
combine, the error is about the first keyword that lacks an operand. -/
theorem combine_complete (parts : List Part) :
    ((∃ items, combine parts = .ok items) ↔ IsComplete parts) ∧
    (∀ items, combine parts = .ok items → partsAll items = parts.flatMap opened ∧
      ((∀ i, .item i ∈ parts → i.IsAtom) → partsAll items = parts)) ∧
    ∀ e, combine parts = .error e ↔ ∃ before part after, parts = before ++ part :: after ∧
      dangles before.getLast? part after ∧ part.missing? = some e ∧
      ∀ start other stop, before = start ++ other :: stop →
        dangles start.getLast? other (stop ++ part :: after) = false := by
  refine ⟨combine_eq_ok_iff.trans isComplete_iff.symm, ?kept, ?fault⟩
  case kept =>
    intro items h
    have hparts : partsAll items = parts.flatMap opened := partsAll_combineAfter h
    exact ⟨hparts, fun hatom => by rw [hparts, flatMap_opened hatom]⟩
  case fault =>
    intro e
    rw [combine_eq_error_iff, Option.bind_eq_some_iff]
    simp only [fault?_eq_some_iff, Option.or_none]
    constructor
    · rintro ⟨part, ⟨before, after, hparts, hpart, hfirst⟩, he⟩
      exact ⟨before, part, after, hparts, hpart, he, hfirst⟩
    · rintro ⟨before, part, after, hparts, hpart, he, hfirst⟩
      exact ⟨part, ⟨before, after, hparts, hpart, hfirst⟩, he⟩

/-- Parts that combine with their keywords in place, and parts of which the second keyword is the
first fault, although the last one lacks its operand too. -/
theorem combine_complete_negated :
    let a := Item.word ⟨1, 1⟩ "a"
    let b := Item.word ⟨1, 11⟩ "b"
    let parts : List Part := [.item a, .and ⟨1, 3⟩, .not ⟨1, 7⟩, .item b]
    let items : List Item := [.and ⟨1, 3⟩ a [.not ⟨1, 7⟩ b]]
    let faulty : List Part := [.item a, .and ⟨1, 3⟩, .or ⟨1, 7⟩, .item b, .not ⟨1, 13⟩]
    combine parts = .ok items ∧ IsComplete parts ∧ partsAll items = parts ∧
      combine faulty = .error (.missingOperand .or ⟨1, 7⟩) ∧ ¬ IsComplete faulty := by
  intro a b parts items faulty
  obtain ⟨hcomplete, hkept, -⟩ := combine_complete parts
  have hitems : combine parts = .ok items := rfl
  have hatom : ∀ i, .item i ∈ parts → i.IsAtom := by
    intro i hi
    obtain rfl | rfl : i = a ∨ i = b := by simpa [parts] using hi
    · rfl
    · rfl
  have hfails : combine faulty = .error (.missingOperand .or ⟨1, 7⟩) := rfl
  refine ⟨hitems, hcomplete.1 ⟨items, hitems⟩, (hkept items hitems).2 hatom, hfails, ?_⟩
  rw [← (combine_complete faulty).1, hfails]
  rintro ⟨_, ⟨⟩⟩

end SearchQuery.Part
