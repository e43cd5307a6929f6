import Mathlib.Data.List.Basic
import Mathlib.Tactic.Common
import SearchQuery.Text.Word

/-!
# Words at the front of a text

* `leadingWord_append_eq_left`: when a word followed by some text is read off as that word. The two
  ways to fail at the seam are a text that goes on with the word, and a dot on either side of it.
* `leadingWord_append_drop`: what is read off stands at the front of the text.
* `Keyword.ofWord?_eq_some_iff`: which words are keywords.
-/

namespace SearchQuery.Text

/-! ## Character classes -/

/-- What holds of every ASCII character may be checked one by one. -/
theorem forall_ascii {p : Char → Bool} (h : (List.range 0x80).all fun n => p (Char.ofNat n))
    (c : Char) (hc : c.toNat < 0x80) : p c := by
  have := List.all_eq_true.1 h c.toNat (List.mem_range.2 hc)
  rwa [Char.ofNat_toNat] at this

theorem isBlank_eq_false_of_isWordChar {c : Char} (h : isWordChar c) : isBlank c = false := by
  by_cases hc : c.toNat < 0x80
  · have := forall_ascii (p := fun c => !isWordChar c || !isBlank c) (by decide +kernel) c hc
    simpa [h] using this
  · rw [isWordChar, if_neg hc, Bool.and_eq_true, Bool.not_eq_true'] at h
    exact h.1

/-- A word character is none of the characters outside its class. -/
theorem ne_of_isWordChar {c d : Char} (h : isWordChar c) (hd : isWordChar d = false) : c ≠ d := by
  rintro rfl
  simp [h] at hd

theorem isBareWord_iff {text : String} :
    isBareWord text ↔ text.toList ≠ [] ∧ (∀ c ∈ text.toList, isWordChar c) ∧
      hasRangeSign text.toList = false ∧ Keyword.ofWord? text = none := by
  simp only [isBareWord, Bool.and_eq_true, Bool.not_eq_true', List.all_eq_true,
    List.isEmpty_eq_false_iff, Option.isNone_iff_eq_none, and_assoc]

/-! ## One character at a time -/

theorem leadingWord_cons (c : Char) (rest : List Char) :
    leadingWord (c :: rest) =
      if c = '.' ∧ rest.head? = some '.' then []
      else if isWordChar c then c :: leadingWord rest else [] := by
  by_cases h : c = '.' ∧ rest.head? = some '.'
  · obtain ⟨rfl, hr⟩ := h
    obtain ⟨tail, rfl⟩ := List.head?_eq_some_iff.1 hr
    simp [leadingWord]
  · rw [if_neg h, leadingWord]
    rintro tail rfl rfl
    exact h ⟨rfl, rfl⟩

theorem hasRangeSign_cons (c : Char) (rest : List Char) :
    hasRangeSign (c :: rest) = (decide (c = '.' ∧ rest.head? = some '.') || hasRangeSign rest) := by
  by_cases h : c = '.' ∧ rest.head? = some '.'
  · obtain ⟨rfl, hr⟩ := h
    obtain ⟨tail, rfl⟩ := List.head?_eq_some_iff.1 hr
    simp [hasRangeSign]
  · rw [decide_eq_false h, Bool.false_or, hasRangeSign]
    rintro tail rfl rfl
    exact h ⟨rfl, rfl⟩

theorem leadingWord_cons_of_not_isWordChar {c : Char} (h : isWordChar c = false)
    (rest : List Char) : leadingWord (c :: rest) = [] := by
  rw [leadingWord_cons, h]
  simp

/-- A text at whose front a word stands starts with a word character, and not with `..`. -/
theorem isWordChar_of_leadingWord_ne_nil {c : Char} {rest : List Char}
    (h : leadingWord (c :: rest) ≠ []) :
    isWordChar c ∧ (c = '.' → rest.head? ≠ some '.') := by
  rw [leadingWord_cons] at h
  split at h
  · exact absurd rfl h
  · rename_i hdots
    split at h
    · exact ⟨‹_›, fun hc hr => hdots ⟨hc, hr⟩⟩
    · exact absurd rfl h

/-! ## A word and what follows it -/

theorem leadingWord_append_eq_left {word rest : List Char} :
    leadingWord (word ++ rest) = word ↔
      (∀ c ∈ word, isWordChar c) ∧ hasRangeSign word = false ∧ leadingWord rest = [] ∧
        (word.getLast? = some '.' → rest.head? ≠ some '.') := by
  induction word with
  | nil => simp [hasRangeSign]
  | cons c word ih =>
    rw [List.cons_append, leadingWord_cons, hasRangeSign_cons, List.forall_mem_cons]
    cases word with
    | nil =>
      -- The seam comes right after `c`.
      by_cases hdots : c = '.' ∧ rest.head? = some '.'
      · simp [hdots]
      · have hnot : c = '.' → rest.head? ≠ some '.' := fun hc hr => hdots ⟨hc, hr⟩
        rw [List.nil_append, if_neg hdots]
        by_cases hw : isWordChar c
        · simpa [hw, hasRangeSign] using fun _ => hnot
        · simp [hw]
    | cons d word =>
      rw [List.getLast?_cons_cons, List.cons_append, List.head?_cons, List.head?_cons]
      rw [List.cons_append] at ih
      by_cases hdots : c = '.' ∧ some d = some '.'
      · simp [hdots]
      · rw [if_neg hdots, decide_eq_false hdots, Bool.false_or]
        by_cases hw : isWordChar c
        · rw [if_pos hw, List.cons.injEq, ih]
          simp [hw]
        · simp [hw]

theorem leadingWord_append_drop (text : List Char) :
    leadingWord text ++ text.drop (leadingWord text).length = text := by
  induction text with
  | nil => rfl
  | cons c rest ih =>
    rw [leadingWord_cons]
    split
    · rfl
    · split
      · simp [ih]
      · rfl

/-! ## Keywords -/

/-- A word spells the keyword that it is in capitals. -/
theorem Keyword.ofWord?_eq_some_iff {word : String} {k : Keyword} :
    Keyword.ofWord? word = some k ↔ k.text = asciiUppercase word := by
  constructor
  · intro h
    have hfound := List.find?_some h
    exact eq_of_beq hfound
  · intro h
    rw [Keyword.ofWord?, ← h]
    cases k <;> decide

end SearchQuery.Text
