import Mathlib.Tactic.Common
import SearchQuery.Proofs.Item.WellFormed
import SearchQuery.Proofs.Query.RoundTrip

/-!
# Bare words are the queries of one word

`Text.isBareWord` looks at the characters of a text alone and knows no reader.

* `parse_of_isBareWord`: a bare word is parsed as the word that it is.
* `isBareWord_of_parse`: a text that is parsed as a single word is a bare word, whatever else could
  stand for one: blanks around it, a quote, a keyword or a dot before another.
* `isBareWord_iff_parse`: both together.
-/

namespace SearchQuery.Query

open Item

variable {limit : Nat} {text : String} {pos : Position}

/-- Only a word is the same word, positions apart. -/
theorem unplacedAll_eq_word {items : List Item} (h : unplacedAll items = [.word .start text]) :
    ∃ pos, items = [.word pos text] := by
  cases items with
  | nil => cases h
  | cons item items =>
    rw [unplacedAll, List.cons.injEq] at h
    obtain ⟨hitem, hitems⟩ := h
    cases items with
    | nil =>
      cases item <;> cases hitem
      exact ⟨_, rfl⟩
    | cons other items => cases hitems

/-- A bare word is what it is printed as, and takes no level. -/
theorem parse_of_isBareWord (limit : Nat) (h : Text.isBareWord text) :
    ∃ pos, parse limit text = .ok [.word pos text] := by
  have hsequence : IsSequence IsTerm [.word .start text] :=
    .cons (.term (.value (.plain (.piece (.name (.word h)))))) .nil
  have hlevels : levels 1 [.word .start text] ≤ limit := Nat.zero_le limit
  obtain ⟨found, hfound, hunplaced⟩ := parse_print_of_levels hsequence hlevels
  obtain ⟨pos, rfl⟩ := unplacedAll_eq_word hunplaced
  exact ⟨pos, hfound⟩

theorem isBareWord_of_parse (h : parse limit text = .ok [.word pos text]) :
    Text.isBareWord text := by
  obtain ⟨t, -, hread⟩ := parse_ok h
  have hword : WellFormed (.word pos text) :=
    hread.sequence.wellFormed _ (by simp [nodesAll, nodes])
  exact hword

/-- **Bare words.** A text is a bare word just if it is parsed, under any limit, as a single word
with the same text. -/
theorem isBareWord_iff_parse (limit : Nat) (text : String) :
    Text.isBareWord text ↔ ∃ pos, parse limit text = .ok [.word pos text] :=
  ⟨parse_of_isBareWord limit, fun ⟨_, h⟩ => isBareWord_of_parse h⟩

end SearchQuery.Query
