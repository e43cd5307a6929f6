import Mathlib.Data.List.Basic
import Mathlib.Tactic.Common
import SearchQuery.Proofs.Identifier.Text
import SearchQuery.Schema.Cast

/-!
# ULIDs in their canonical form

The letters of a ULID are compared up to simple case folding, but only ASCII letters are put in
upper case. The two other characters that fold to a letter, the long s and the Kelvin sign, are
read and stay as they are.

* `isDigit_iff`: what is read as a base 32 digit.
* `Kind.cast_ulid_canonical_iff`: the text of a ULID is canonical just if the literal has neither of
  the two.
-/

namespace SearchQuery

namespace Text

/-! ## What folds to ASCII -/

/-- A run of the folding beyond ASCII has its images there as well, the runs of the long s and the
Kelvin sign apart. -/
theorem foldRuns_images : ∀ r ∈ foldRuns, r.last < 0x80 ∨
    r.first = r.last ∧ (r.last = 0x17F ∨ r.last = 0x212A) ∨
    0x80 ≤ (r.first : Int) + r.shift ∧ ((r.last : Int) + r.shift < 0xD800 ∨
      0xE000 ≤ (r.first : Int) + r.shift ∧ (r.last : Int) + r.shift < 0x110000) := by
  decide +kernel

theorem toNat_ofNat_of_lt {n : Nat} (h : n < 0xD800 ∨ 0xE000 ≤ n ∧ n < 0x110000) :
    (Char.ofNat n).toNat = n := by
  have hvalid : n.isValidChar := by
    rcases h with h | h
    · exact .inl h
    · exact .inr ⟨by omega, h.2⟩
  rw [Char.ofNat, dif_pos hvalid]
  rfl

theorem foldChar_not_ascii {c : Char} (hc : ¬ c.toNat < 0x80) (hs : c ≠ '\u017f')
    (hk : c ≠ '\u212a') : ¬ (foldChar c).toNat < 0x80 := by
  rw [foldChar, if_neg hc, shiftCase]
  split
  · rename_i r hr
    have hcovers := List.find?_some hr
    simp only [CaseRun.covers, Bool.and_eq_true, decide_eq_true_eq] at hcovers
    obtain ⟨⟨hfirst, hlast⟩, -⟩ := hcovers
    rcases foldRuns_images r (List.mem_of_find?_eq_some hr) with hascii | ⟨hone, h⟩ | ⟨hlow, hhigh⟩
    · omega
    · -- The run holds one character, which is one of the two.
      have hvalue : c.toNat = 0x17F ∨ c.toNat = 0x212A := by omega
      rw [← Char.ofNat_toNat c] at hs hk
      rcases hvalue with hvalue | hvalue
      · exact absurd (congrArg Char.ofNat hvalue) hs
      · exact absurd (congrArg Char.ofNat hvalue) hk
    · rw [toNat_ofNat_of_lt (by omega)]
      omega
  · exact hc

end Text

namespace Ulid

open Text

/-! ## Digits -/

theorem alphabet_ascii : ∀ d ∈ alphabet, d.toNat < 0x80 ∧ (foldChar d).toNat < 0x80 := by
  -- Decided for the list, as a statement on characters may be decided for all characters.
  have hall : alphabet.all fun d => d.toNat < 0x80 ∧ (foldChar d).toNat < 0x80 := by
    decide +kernel
  exact fun d hd => of_decide_eq_true (List.all_eq_true.1 hall d hd)

/-- A base 32 digit is one in upper case once ASCII letters are, or one of the two characters that
are no ASCII letters but fold to one. -/
theorem isDigit_iff {c : Char} :
    isDigit c ↔ asciiUpper c ∈ alphabet ∨ c = '\u017f' ∨ c = '\u212a' := by
  by_cases hc : c.toNat < 0x80
  · have hall := forall_ascii (p := fun c => isDigit c == alphabet.contains (asciiUpper c))
      (by decide +kernel) c hc
    have hne (d : Char) (hd : ¬ d.toNat < 0x80) : c ≠ d := by
      rintro rfl
      exact hd hc
    rw [beq_iff_eq] at hall
    simp [hall, hne '\u017f' (by decide), hne '\u212a' (by decide)]
  · by_cases hs : c = '\u017f'
    · subst hs
      decide +kernel
    by_cases hk : c = '\u212a'
    · subst hk
      decide +kernel
    refine iff_of_false ?_ ?_
    · rw [isDigit, List.any_eq_true]
      rintro ⟨d, hd, hsame⟩
      rw [sameLetter, beq_iff_eq] at hsame
      refine foldChar_not_ascii hc hs hk ?_
      rw [hsame]
      exact (alphabet_ascii d hd).2
    · rw [asciiUpper_of_not_ascii hc]
      rintro (hmem | h | h)
      · exact hc (alphabet_ascii c hmem).1
      · exact hs h
      · exact hk h

theorem read?_eq_some_iff {raw text : String} : read? raw = some text ↔
    raw.toList.length = 26 ∧ (∀ c ∈ raw.toList, isDigit c) ∧ text = asciiUppercase raw := by
  unfold read?
  split
  · rename_i h
    rw [Bool.and_eq_true, decide_eq_true_eq, List.all_eq_true] at h
    rw [Option.some.injEq, @eq_comm _ text]
    exact ⟨fun htext => ⟨h.1, h.2, htext⟩, fun hread => hread.2.2⟩
  · rename_i h
    rw [Bool.and_eq_true, decide_eq_true_eq, List.all_eq_true] at h
    simp only [reduceCtorEq, false_iff]
    exact fun hread => h ⟨hread.1, hread.2.1⟩

/-- A text of base 32 digits is one in upper case once ASCII letters are, if these are all its
letters. -/
theorem forall_mem_alphabet_iff {raw : String} (h : ∀ c ∈ raw.toList, isDigit c) :
    (∀ c ∈ (asciiUppercase raw).toList, c ∈ alphabet) ↔
      '\u017f' ∉ raw.toList ∧ '\u212a' ∉ raw.toList := by
  rw [asciiUppercase, String.toList_ofList, List.forall_mem_map]
  constructor
  · intro hupper
    constructor
    · intro hs
      exact absurd (hupper _ hs) (by decide +kernel)
    · intro hk
      exact absurd (hupper _ hk) (by decide +kernel)
  · rintro ⟨hs, hk⟩ c hc
    rcases isDigit_iff.1 (h c hc) with hmem | rfl | rfl
    · exact hmem
    · exact absurd hc hs
    · exact absurd hc hk

end Ulid

namespace Kind

variable {raw text : String} {now : DateTime}

theorem cast_ulid_eq_ok : ulid.cast raw now = .ok (.ulid text) ↔ Ulid.read? raw = some text := by
  rw [cast]
  split
  · rename_i found hfound
    simp [hfound]
  · rename_i hfound
    simp [hfound]

/-- **Canonical ULIDs.** What a literal is cast to has 26 characters. All of them are base 32 digits
in upper case just if the literal holds neither a long s nor a Kelvin sign. -/
theorem cast_ulid_canonical_iff (h : ulid.cast raw now = .ok (.ulid text)) :
    text.toList.length = 26 ∧ ((∀ c ∈ text.toList, c ∈ Ulid.alphabet) ↔
      '\u017f' ∉ raw.toList ∧ '\u212a' ∉ raw.toList) := by
  obtain ⟨hlength, hdigits, rfl⟩ := Ulid.read?_eq_some_iff.1 (cast_ulid_eq_ok.1 h)
  refine ⟨?_, Ulid.forall_mem_alphabet_iff hdigits⟩
  rw [Text.asciiUppercase, String.toList_ofList, List.length_map, hlength]

/-- Letters in either case, with the long s and the Kelvin sign left out. -/
theorem cast_ulid_canonical_iff_ascii :
    let now : DateTime := ⟨⟨2024, 3, 15, by decide⟩, .midnight⟩
    ulid.cast "01arz3ndektsv4RRFFQ69g5fak" now = .ok (.ulid "01ARZ3NDEKTSV4RRFFQ69G5FAK") ∧
      "01ARZ3NDEKTSV4RRFFQ69G5FAK".toList.length = 26 ∧
        ∀ c ∈ "01ARZ3NDEKTSV4RRFFQ69G5FAK".toList, c ∈ Ulid.alphabet := by
  intro now
  have hcast : ulid.cast "01arz3ndektsv4RRFFQ69g5fak" now =
      .ok (.ulid "01ARZ3NDEKTSV4RRFFQ69G5FAK") := by
    decide +kernel
  obtain ⟨hlength, hcanonical⟩ := cast_ulid_canonical_iff hcast
  exact ⟨hcast, hlength, hcanonical.2 (by decide)⟩

/-- A long s is read as the letter that it folds to, and stays what it is. -/
theorem cast_ulid_long_s :
    let now : DateTime := ⟨⟨2024, 3, 15, by decide⟩, .midnight⟩
    ulid.cast "01ARZ3NDEKT\u017fV4RRFFQ69G5FAV" now =
        .ok (.ulid "01ARZ3NDEKT\u017fV4RRFFQ69G5FAV") ∧
      '\u017f' ∈ "01ARZ3NDEKT\u017fV4RRFFQ69G5FAV".toList ∧ '\u017f' ∉ Ulid.alphabet := by
  decide +kernel

end Kind

end SearchQuery
