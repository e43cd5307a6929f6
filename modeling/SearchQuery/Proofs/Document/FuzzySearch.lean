import SearchQuery.Document.Matcher
import SearchQuery.Proofs.Text.LetterCase

/-!
# Searching inside texts

A fuzzy test of a field and a free term both look for one text inside another, each in lower case
as a whole (`Json.contains_string_iff`).

* `Matcher.finds_literal_iff`: whether they find a text in every text that it is part of.
-/

namespace SearchQuery

/-- One text stands inside another just if it is an infix of it. -/
theorem Json.occursIn_iff {needle text : List Char} :
    Json.occursIn needle text ↔ needle <:+: text := by
  induction text with
  | nil => rw [Json.occursIn, List.isEmpty_iff, List.infix_nil]
  | cons c text ih =>
    rw [Json.occursIn, Bool.or_eq_true, List.isPrefixOf_iff_prefix, ih, List.infix_cons_iff]

theorem Json.contains_string_iff {text needle : String} :
    (Json.string text).contains (.string needle) ↔
      Text.lowerFrom [] needle.toList <:+: Text.lowerFrom [] text.toList := by
  simp [Json.contains, Json.scalarText?, Json.occursIn_iff, Text.lowercase]

namespace Matcher

variable {field text s : String} {pos place place' place'' : Position}

theorem ofItems_fuzzy :
    ofItems [.pair pos (.word place field) (.compare place' .fuzz (.quote place'' s))] =
      .ok (.field field (.compare .fuzz (.literal (.string s)))) := by
  rfl

theorem ofItems_quote :
    ofItems [.quote place s] = .ok (.anyField (.compare .fuzz (.literal (.string s)))) := by
  rfl

/-- A text under a field passes a fuzzy test just if it contains what is sought. -/
theorem accepts_fuzzy :
    accepts (.object [(field, .string text)])
        (.field field (.compare .fuzz (.literal (.string s)))) =
      (Json.string text).contains (.string s) := by
  rw [accepts, Json.lookup?_single, Test.passes]
  simp [Json.slotValues, Test.comparison, Operand.resolve?, Operator.holds]

/-- The one text of a document passes the test of a free term just if it contains the term. -/
theorem accepts_anyField :
    accepts (.object [(field, .string text)]) (.anyField (.compare .fuzz (.literal (.string s)))) =
      (Json.string text).contains (.string s) := by
  simp [accepts, Json.leaves, Json.leavesOfMembers, Test.passes, Json.slotValues, Test.comparison,
    Operand.resolve?, Operator.holds]

/-- **Search for what is there.** A text is found in every text that it is part of, by a fuzzy test
of the field as by a free term, just if the form of its capital sigmas in lower case does not depend
on what stands around it. -/
theorem finds_literal_iff (field s : String) (pos place place' place'' : Position) :
    ∃ inField anywhere : Matcher,
      ofItems [.pair pos (.word place field) (.compare place' .fuzz (.quote place'' s))] =
        .ok inField ∧
      ofItems [.quote place'' s] = .ok anywhere ∧
      ((∀ u v, inField.accepts (.object [(field, .string (u ++ s ++ v))])) ↔
        Text.SettledSigmas s.toList) ∧
      ((∀ u v, anywhere.accepts (.object [(field, .string (u ++ s ++ v))])) ↔
        Text.SettledSigmas s.toList) := by
  have hfound : (∀ u v : String, (Json.string (u ++ s ++ v)).contains (.string s)) ↔
      Text.SettledSigmas s.toList := by
    rw [← Text.lowerFrom_infix_iff]
    constructor
    · intro h u v
      simpa [Json.contains_string_iff] using h (String.ofList u) (String.ofList v)
    · intro h u v
      simpa [Json.contains_string_iff] using h u.toList v.toList
  refine ⟨_, _, ofItems_fuzzy, ofItems_quote, ?_, ?_⟩
  · simpa only [accepts_fuzzy] using hfound
  · simpa only [accepts_anyField] using hfound

/-- A capital sigma that ends a word is not found by itself, since its lower case there is another
letter. -/
theorem finds_literal_misses :
    ∃ inField anywhere : Matcher,
      ofItems [.pair ⟨1, 1⟩ (.word ⟨1, 1⟩ "f") (.compare ⟨1, 3⟩ .fuzz (.quote ⟨1, 4⟩ "Σ"))] =
        .ok inField ∧
      ofItems [.quote ⟨1, 4⟩ "Σ"] = .ok anywhere ∧
      inField.accepts (.object [("f", .string ("Α" ++ "Σ" ++ ""))]) = false ∧
      anywhere.accepts (.object [("f", .string ("Α" ++ "Σ" ++ ""))]) = false := by
  refine ⟨_, _, ofItems_fuzzy, ofItems_quote, ?_, ?_⟩
  · rw [accepts_fuzzy]
    decide +kernel
  · rw [accepts_anyField]
    decide +kernel

end Matcher

end SearchQuery
