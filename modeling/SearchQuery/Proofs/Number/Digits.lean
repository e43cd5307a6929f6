import Mathlib.Data.List.Basic
import Mathlib.Tactic.Common
import SearchQuery.Number.Integer

/-!
# Written numbers read back

* `ofDigits_padded`: a number in decimal digits, with or without zeros in front.
* `readUInt32?_eq_some_iff`: the texts that a count of 32 bits is read of.
* `readInt64_integerText`: an integer of 64 bits after its sign.
-/

namespace SearchQuery.Number

variable {width n : Nat} {text : List Char}

/-! ## Natural numbers -/

theorem digit?_of_isDigit {c : Char} (h : c.isDigit) : digit? c = some (c.toNat - 48) := by
  simp only [Char.isDigit, Bool.and_eq_true, decide_eq_true_eq] at h
  exact if_pos (by simpa [Char.le_def] using h)

theorem isDigit_of_isDigit {c : Char} (h : c.isDigit) : isDigit c := by
  rw [isDigit, digit?_of_isDigit h]
  rfl

theorem ofDigits_eq (h : ∀ c ∈ text, c.isDigit) (acc : Nat) :
    ofDigits acc text = Nat.ofDigitChars 10 text acc := by
  induction text generalizing acc with
  | nil => rfl
  | cons c text ih =>
    rw [List.forall_mem_cons] at h
    rw [Nat.ofDigitChars_cons, ← ih h.2, ofDigits, List.foldl_cons, digit?_of_isDigit h.1]
    rfl

theorem padded_toList (width n : Nat) : (padded width n).toList =
    List.replicate (width - (Nat.toDigits 10 n).length) '0' ++ Nat.toDigits 10 n := by
  rw [padded, String.toList_ofList]

theorem isDigit_of_mem_padded {c : Char} (h : c ∈ (padded width n).toList) : c.isDigit := by
  rw [padded_toList, List.mem_append] at h
  obtain h | h := h
  · rw [List.eq_of_mem_replicate h]
    rfl
  · exact Nat.isDigit_of_mem_toDigits (by decide) (by decide) h

theorem padded_ne_nil (width n : Nat) : (padded width n).toList ≠ [] := by
  rw [padded_toList]
  exact List.append_ne_nil_of_right_ne_nil _ Nat.toDigits_ne_nil

theorem ofDigits_padded (width n : Nat) : ofDigits 0 (padded width n).toList = n := by
  rw [ofDigits_eq fun c => isDigit_of_mem_padded, padded_toList, Nat.ofDigitChars_append,
    Nat.ofDigitChars_replicate_zero, Nat.mul_zero, Nat.ofDigitChars_toDigits (by decide) (by decide)]

/-! ## Digits up to a limit -/

theorem le_ofDigits (acc : Nat) (text : List Char) : acc ≤ ofDigits acc text := by
  induction text generalizing acc with
  | nil => exact Nat.le_refl acc
  | cons c text ih =>
    have hstep := ih (10 * acc + (digit? c).getD 0)
    rw [ofDigits, List.foldl_cons]
    exact Nat.le_trans (by omega) hstep

/-- Digits are read up to their number. -/
theorem readMagnitude_ok {limit acc : Nat} (overflow : IntegerError) (h : ∀ c ∈ text, c.isDigit)
    (hlimit : ofDigits acc text ≤ limit) :
    readMagnitude limit overflow acc text = .ok (ofDigits acc text) := by
  induction text generalizing acc with
  | nil => rfl
  | cons c text ih =>
    rw [List.forall_mem_cons] at h
    have hstep : ofDigits acc (c :: text) = ofDigits (10 * acc + (c.toNat - 48)) text := by
      rw [ofDigits, List.foldl_cons, digit?_of_isDigit h.1]
      rfl
    rw [hstep] at hlimit ⊢
    rw [readMagnitude, digit?_of_isDigit h.1]
    have hle := le_ofDigits (10 * acc + (c.toNat - 48)) text
    dsimp only
    rw [if_neg (by omega)]
    exact ih h.2 hlimit

/-! ## Counts of 32 bits -/

theorem isDigit_of_digit? {c : Char} {d : Nat} (h : digit? c = some d) : c.isDigit := by
  unfold digit? at h
  split at h
  · rename_i hrange
    rw [Bool.and_eq_true, decide_eq_true_eq, decide_eq_true_eq] at hrange
    simpa [Char.isDigit, Char.le_def] using hrange
  · cases h

theorem readMagnitude_eq_ok_iff {limit acc : Nat} {overflow : IntegerError} (hacc : acc ≤ limit) :
    readMagnitude limit overflow acc text = .ok n ↔
      (∀ c ∈ text, c.isDigit) ∧ ofDigits acc text = n ∧ n ≤ limit := by
  constructor
  · intro h
    induction text generalizing acc with
    | nil =>
      cases h
      exact ⟨by simp, rfl, hacc⟩
    | cons c text ih =>
      rw [readMagnitude] at h
      split at h
      · cases h
      · rename_i d hd
        split at h
        · cases h
        · rename_i hfits
          obtain ⟨hdigits, hvalue, hlimit⟩ := ih (by omega) h
          refine ⟨List.forall_mem_cons.2 ⟨isDigit_of_digit? hd, hdigits⟩, ?_, hlimit⟩
          rw [← hvalue, ofDigits, List.foldl_cons, hd]
          rfl
  · rintro ⟨hdigits, rfl, hlimit⟩
    exact readMagnitude_ok overflow hdigits hlimit

theorem readDigits_eq_ok_iff {limit : Nat} {overflow : IntegerError} :
    readDigits limit overflow text = .ok n ↔
      text ≠ [] ∧ (∀ c ∈ text, c.isDigit) ∧ ofDigits 0 text = n ∧ n ≤ limit := by
  cases text with
  | nil => simp [readDigits]
  | cons c text => simp [readDigits, readMagnitude_eq_ok_iff (Nat.zero_le limit)]

/-- A count of 32 bits as it is written: decimal digits, perhaps after a plus sign. -/
def WritesUInt32 (word : String) (n : Nat) : Prop :=
  ∃ digits : List Char, (word.toList = digits ∨ word.toList = '+' :: digits) ∧ digits ≠ [] ∧
    (∀ c ∈ digits, c.isDigit) ∧ Nat.ofDigitChars 10 digits 0 = n ∧ n < UInt32.size

theorem readNat_eq_ok_iff {limit : Nat} {word : String} : readNat limit word = .ok n ↔
    ∃ digits : List Char, (word.toList = digits ∨ word.toList = '+' :: digits) ∧
      readDigits limit .tooLarge digits = .ok n := by
  unfold readNat
  split
  · rename_i hnil
    simp [hnil, readDigits]
  · rename_i rest hplus
    rw [hplus]
    constructor
    · intro h
      exact ⟨rest, .inr rfl, h⟩
    · rintro ⟨digits, rfl | hdigits, h⟩
      · -- A plus sign is no digit.
        cases (readDigits_eq_ok_iff.1 h).2.1 '+' List.mem_cons_self
      · cases hdigits
        exact h
  · rename_i hplus
    constructor
    · intro h
      exact ⟨_, .inl rfl, h⟩
    · rintro ⟨digits, rfl | hdigits, h⟩
      · exact h
      · exact absurd hdigits (hplus digits)

/-- **Counts.** A count is read of just the texts that write it. -/
theorem readUInt32?_eq_some_iff {word : String} :
    readUInt32? word = some n ↔ WritesUInt32 word n := by
  have hoption : readUInt32? word = some n ↔ readNat (UInt32.size - 1) word = .ok n := by
    unfold readUInt32?
    cases readNat (UInt32.size - 1) word <;> simp [Except.toOption]
  rw [hoption, readNat_eq_ok_iff]
  refine exists_congr fun digits => and_congr_right fun _ => ?_
  rw [readDigits_eq_ok_iff]
  refine and_congr_right fun _ => and_congr_right fun hdigits => ?_
  rw [ofDigits_eq hdigits, UInt32.size]
  exact and_congr_right fun _ => by omega

/-! ## Integers of 64 bits -/

theorem isDigit_of_mem_digits {c : Char} (h : c ∈ (digits n).toList) : c.isDigit := by
  rw [digits, String.toList_ofList] at h
  exact Nat.isDigit_of_mem_toDigits (by decide) (by decide) h

theorem readDigits_digits {limit : Nat} (overflow : IntegerError) (h : n ≤ limit) :
    readDigits limit overflow (digits n).toList = .ok n := by
  have hdigits : ∀ c ∈ (digits n).toList, c.isDigit := fun c => isDigit_of_mem_digits
  have hvalue : ofDigits 0 (digits n).toList = n := by
    rw [ofDigits_eq hdigits, digits, String.toList_ofList,
      Nat.ofDigitChars_toDigits (by decide) (by decide)]
  rw [readDigits]
  · rw [readMagnitude_ok overflow hdigits (by rwa [hvalue]), hvalue]
  · rw [digits, String.toList_ofList]
    exact Nat.toDigits_ne_nil

/-- **Integers read back.** An integer of 64 bits is read of its text. -/
theorem readInt64_integerText (n : Int64) : readInt64 (integerText n.toInt) = .ok n := by
  have hlow : -2 ^ 63 ≤ n.toInt := n.le_toInt
  have hhigh : n.toInt < 2 ^ 63 := n.toInt_lt
  by_cases hneg : n.toInt < 0
  · have htext : (integerText n.toInt).toList = '-' :: (digits n.toInt.natAbs).toList := by
      rw [integerText, if_pos hneg, String.toList_append]
      rfl
    have hread : readDigits int64Limit .tooSmall (digits n.toInt.natAbs).toList =
        .ok n.toInt.natAbs := readDigits_digits _ (by unfold int64Limit; omega)
    have hvalue : -(n.toInt.natAbs : Int) = n.toInt := by omega
    simp only [readInt64, htext, hread]
    change Except.ok (Int64.ofInt (-(n.toInt.natAbs : Int))) = _
    rw [hvalue, Int64.ofInt_toInt]
  · have htext : (integerText n.toInt).toList = (digits n.toInt.natAbs).toList := by
      rw [integerText, if_neg hneg]
    have hread : readDigits (int64Limit - 1) .tooLarge (digits n.toInt.natAbs).toList =
        .ok n.toInt.natAbs := readDigits_digits _ (by unfold int64Limit; omega)
    have hvalue : (n.toInt.natAbs : Int) = n.toInt := by omega
    have hdigits : ∀ c ∈ (digits n.toInt.natAbs).toList, c.isDigit :=
      fun c => isDigit_of_mem_digits
    unfold readInt64
    rw [htext]
    split
    · rename_i hnil
      rw [hnil] at hread
      cases hread
    · rename_i hcons
      rw [hcons] at hdigits
      cases hdigits '-' List.mem_cons_self
    · rename_i hcons
      rw [hcons] at hdigits
      cases hdigits '+' List.mem_cons_self
    · rw [hread]
      change Except.ok (Int64.ofInt (n.toInt.natAbs : Int)) = _
      rw [hvalue, Int64.ofInt_toInt]

end SearchQuery.Number
