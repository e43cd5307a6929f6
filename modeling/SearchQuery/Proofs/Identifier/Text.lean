import Mathlib.Algebra.GroupWithZero.Nat
import Mathlib.Data.List.Basic
import Mathlib.Tactic.Common
import SearchQuery.Identifier.Ulid
import SearchQuery.Identifier.Uuid
import SearchQuery.Proofs.Text.Word

/-!
# Identifiers read back

A UUID is read of its text (`Uuid.read_text`), and the canonical text of a ULID is read as itself
(`Ulid.read?_idem`).
-/

namespace SearchQuery

namespace Uuid

open Text.Escape (hexDigit? hexValue?)

/-! ## Digits -/

theorem length_hexDigits (width n : Nat) : (hexDigits width n).length = width := by
  induction width generalizing n with
  | zero => rfl
  | succ width ih => rw [hexDigits, List.length_append, ih, List.length_singleton]

theorem hexDigit?_hexDigit {n : Nat} (h : n < 16) : hexDigit? (hexDigit n) = some n := by
  have hall : ∀ i : Fin 16, hexDigit? (hexDigit i) = some i.val := by decide
  exact hall ⟨n, h⟩

theorem exists_of_mem_hexDigits {width n : Nat} {c : Char} (h : c ∈ hexDigits width n) :
    ∃ i < 16, c = hexDigit i := by
  induction width generalizing n with
  | zero => cases h
  | succ width ih =>
    rw [hexDigits, List.mem_append, List.mem_singleton] at h
    obtain h | rfl := h
    · exact ih h
    · exact ⟨_, Nat.mod_lt _ (by decide), rfl⟩

theorem hexValue?_hexDigits (width n : Nat) :
    hexValue? (hexDigits width n) = some (n % 16 ^ width) := by
  induction width generalizing n with
  | zero =>
    rw [Nat.pow_zero, Nat.mod_one]
    rfl
  | succ width ih =>
    have hstep : 16 * (n / 16 % 16 ^ width) + n % 16 = n % 16 ^ (width + 1) := by
      rw [Nat.pow_succ', Nat.mod_mul]
      omega
    rw [hexValue?] at ih ⊢
    rw [hexDigits, List.foldl_append, ih, List.foldl_cons, List.foldl_nil,
      hexDigit?_hexDigit (Nat.mod_lt n (by decide)), ← hstep]
    rfl

/-! ## Groups -/

theorem flatten_cut {lengths : List Nat} {text : List Char} (h : text.length = lengths.sum) :
    (cut lengths text).flatten = text := by
  induction lengths generalizing text with
  | nil =>
    rw [List.length_eq_zero_iff.1 h]
    rfl
  | cons n lengths ih =>
    rw [List.sum_cons] at h
    rw [cut, List.flatten_cons, ih (by rw [List.length_drop]; omega), List.take_append_drop]

theorem length_cut {lengths : List Nat} {text : List Char} (h : text.length = lengths.sum) :
    (cut lengths text).map List.length = lengths := by
  induction lengths generalizing text with
  | nil => rfl
  | cons n lengths ih =>
    rw [List.sum_cons] at h
    rw [cut, List.map_cons, ih (by rw [List.length_drop]; omega),
      List.length_take_of_le (by omega)]

theorem text_toList (u : Uuid) : u.text.toList =
    ['-'].intercalate (cut groupLengths (hexDigits 32 u.value.toNat)) := by
  simp [text, List.map_map, Function.comp_def]

/-- The groups of the text are those that it was put together from. -/
theorem splitOn_text (u : Uuid) :
    u.text.toList.splitOn '-' = cut groupLengths (hexDigits 32 u.value.toNat) := by
  have hlength : (hexDigits 32 u.value.toNat).length = groupLengths.sum := length_hexDigits 32 _
  rw [text_toList]
  refine List.splitOn_intercalate '-' (fun group hgroup hmem => ?_) (by simp [groupLengths, cut])
  have hflat : '-' ∈ (cut groupLengths (hexDigits 32 u.value.toNat)).flatten :=
    List.mem_flatten_of_mem hgroup hmem
  rw [flatten_cut hlength] at hflat
  obtain ⟨i, hi, hdigit⟩ := exists_of_mem_hexDigits hflat
  have hvalue := hexDigit?_hexDigit hi
  rw [← hdigit] at hvalue
  cases hvalue

theorem length_text (u : Uuid) : u.text.toList.length = 36 := by
  have hlength : (hexDigits 32 u.value.toNat).length = groupLengths.sum := length_hexDigits 32 _
  rw [text_toList]
  simp [groupLengths, cut, List.intercalate, length_hexDigits]

/-- **UUIDs read back.** -/
theorem read_text (u : Uuid) : read u.text = .ok u := by
  have hlength : (hexDigits 32 u.value.toNat).length = groupLengths.sum := length_hexDigits 32 _
  have hvalue : u.value.toNat % 16 ^ 32 = u.value.toNat :=
    Nat.mod_eq_of_lt (Nat.lt_of_lt_of_le u.value.isLt (by decide))
  have hread : read? u.text.toList = some u := by
    rw [read?, length_text, if_neg (by decide), if_pos rfl, ofGroups?, splitOn_text,
      if_pos (length_cut hlength), flatten_cut hlength, ofHex?, hexValue?_hexDigits, hvalue]
    rw [Option.map_some, BitVec.ofNat_toNat, BitVec.setWidth_eq]
  rw [read, hread]

end Uuid

namespace Ulid

open Text

theorem asciiUpper_of_not_ascii {c : Char} (h : ¬ c.toNat < 0x80) : asciiUpper c = c := by
  refine if_neg fun hletter => h ?_
  rw [Bool.and_eq_true, decide_eq_true_eq, decide_eq_true_eq] at hletter
  have hle : c.toNat ≤ 122 := hletter.2
  omega

/-- Upper case keeps a character what it is up to letter case, and keeps upper case. -/
theorem asciiUpper_spec (c : Char) :
    asciiUpper (asciiUpper c) = asciiUpper c ∧ foldChar (asciiUpper c) = foldChar c := by
  by_cases hc : c.toNat < 0x80
  · have hall := forall_ascii (p := fun c => asciiUpper (asciiUpper c) = asciiUpper c &&
      foldChar (asciiUpper c) = foldChar c) (by decide +kernel) c hc
    simpa using hall
  · rw [asciiUpper_of_not_ascii hc]
    exact ⟨asciiUpper_of_not_ascii hc, rfl⟩

/-- **ULIDs read back.** What is read is in upper case, and read as it stands. -/
theorem read?_idem {raw text : String} (h : read? raw = some text) : read? text = some text := by
  unfold read? at h
  split at h
  · rename_i hdigits
    rw [Bool.and_eq_true, decide_eq_true_eq, List.all_eq_true] at hdigits
    cases h
    have htext : (asciiUppercase raw).toList = raw.toList.map asciiUpper := String.toList_ofList
    have hdigit (c : Char) : isDigit (asciiUpper c) = isDigit c := by
      have hsame : sameLetter (asciiUpper c) = sameLetter c := by
        funext d
        rw [sameLetter, sameLetter, (asciiUpper_spec c).2]
      rw [isDigit, isDigit, hsame]
    have hupper : asciiUppercase (asciiUppercase raw) = asciiUppercase raw := by
      rw [asciiUppercase, htext, List.map_map, asciiUppercase]
      exact congrArg String.ofList (List.map_congr_left fun c _ => (asciiUpper_spec c).1)
    rw [read?, htext, List.length_map, List.all_map, hupper, if_pos]
    rw [Bool.and_eq_true, decide_eq_true_eq, List.all_eq_true]
    exact ⟨hdigits.1, fun c hc => (hdigit c).trans (hdigits.2 c hc)⟩
  · cases h

end Ulid

end SearchQuery
