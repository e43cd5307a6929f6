import Mathlib.Algebra.Group.Int.Defs
import Mathlib.Algebra.Group.Nat.Defs
import Mathlib.Tactic.Common
import Mathlib.Tactic.SplitIfs

/-!
# Integers as doubles keep them

A double keeps 53 binary digits of an integer. What becomes of the integer is the nearest multiple
of a power of two, and of two that are equally near the one with an even quotient.

- `divNearest` is division to the nearest natural number (`divNearest_mono`, `le_divNearest`).
- `nearestNat` and `nearestInt` round to 53 digits. They keep the order of numbers
  (`nearestInt_le`), and numbers of up to 53 digits (`nearestInt_eq`).
-/

namespace SearchQuery.Number

/-! ## Division to the nearest -/

/-- The natural number that is nearest to a quotient, and the even one of two equally near. -/
def divNearest (a b : Nat) : Nat :=
  if 2 * (a % b) < b then a / b
  else if b < 2 * (a % b) then a / b + 1
  else a / b + a / b % 2

variable {a b c k : Nat}

theorem divNearest_mul_right (a b : Nat) (hc : 0 < c) :
    divNearest (a * c) (b * c) = divNearest a b := by
  unfold divNearest
  simp only [Nat.mul_mod_mul_right, ← Nat.mul_assoc, Nat.mul_lt_mul_right hc,
    Nat.mul_div_mul_right a b hc]

@[simp] theorem divNearest_mul_self (a : Nat) (hb : 0 < b) : divNearest (a * b) b = a := by
  rw [divNearest, Nat.mul_mod_left, Nat.mul_div_left a hb, Nat.mul_zero, if_pos hb]

theorem divNearest_one (a : Nat) : divNearest a 1 = a := by
  have h := divNearest_mul_self a Nat.one_pos
  rwa [Nat.mul_one] at h

theorem div_le_divNearest (a b : Nat) : a / b ≤ divNearest a b := by
  unfold divNearest
  split_ifs <;> omega

theorem divNearest_le_succ (a b : Nat) : divNearest a b ≤ a / b + 1 := by
  unfold divNearest
  split_ifs <;> omega

theorem divNearest_mono (h : a ≤ c) (b : Nat) : divNearest a b ≤ divNearest c b := by
  have hquotient : a / b ≤ c / b := Nat.div_le_div_right h
  by_cases heq : a / b = c / b
  · -- With one quotient the remainders are in the order of the numbers.
    have hrem : a % b ≤ c % b := by
      have ha := Nat.div_add_mod a b
      have hc := Nat.div_add_mod c b
      rw [← heq] at hc
      omega
    rw [divNearest, divNearest, heq]
    split_ifs <;> omega
  · have hbelow := divNearest_le_succ a b
    have habove := div_le_divNearest c b
    omega

theorem le_divNearest (hb : 0 < b) (h : k * b ≤ a) : k ≤ divNearest a b := by
  have hmono := divNearest_mono h b
  rwa [divNearest_mul_self k hb] at hmono

theorem divNearest_le (hb : 0 < b) (h : a ≤ k * b) : divNearest a b ≤ k := by
  have hmono := divNearest_mono h b
  rwa [divNearest_mul_self k hb] at hmono

/-! ## Rounding to 53 digits -/

/-- The natural number to 53 binary digits. -/
def nearestNat (n : Nat) : Nat := divNearest n (2 ^ (n.log2 - 52)) * 2 ^ (n.log2 - 52)

variable {m n : Nat}

theorem nearestNat_of_log2_le (h : n.log2 ≤ 52) : nearestNat n = n := by
  rw [nearestNat, Nat.sub_eq_zero_of_le h, Nat.pow_zero, divNearest_one, Nat.mul_one]

theorem nearestNat_of_lt (h : n < 2 ^ 53) : nearestNat n = n := by
  rcases Nat.eq_zero_or_pos n with rfl | hpos
  · rfl
  · exact nearestNat_of_log2_le (Nat.le_of_lt_succ ((Nat.log2_lt (Nat.ne_of_gt hpos)).2 h))

theorem log2_mul_two_pow (hn : n ≠ 0) (j : Nat) : (n * 2 ^ j).log2 = n.log2 + j := by
  have hpos := Nat.two_pow_pos j
  refine (Nat.log2_eq_iff (Nat.mul_ne_zero hn (Nat.ne_of_gt hpos))).2 ⟨?_, ?_⟩
  · rw [Nat.pow_add]
    exact Nat.mul_le_mul_right _ (Nat.log2_self_le hn)
  · rw [show n.log2 + j + 1 = n.log2 + 1 + j by omega, Nat.pow_add]
    exact Nat.mul_lt_mul_of_pos_right Nat.lt_log2_self hpos

/-- What is left of a number when it is rounded has 53 digits, or is the next power of two. -/
theorem significand_bounds {t : Nat} (hn : n ≠ 0) (hlog : n.log2 = 52 + t) :
    2 ^ 52 ≤ divNearest n (2 ^ t) ∧ divNearest n (2 ^ t) ≤ 2 ^ 53 := by
  have hbelow := Nat.log2_self_le hn
  have habove : n < 2 ^ (n.log2 + 1) := Nat.lt_log2_self
  rw [hlog, Nat.pow_add] at hbelow
  rw [hlog, show 52 + t + 1 = 53 + t by omega, Nat.pow_add] at habove
  have hpos := Nat.two_pow_pos t
  exact ⟨le_divNearest hpos hbelow, divNearest_le hpos (Nat.le_of_lt habove)⟩

/-- The digits that are left do not depend on how many zeros come after the number. -/
theorem significand_mul_two_pow {j : Nat} (hlog : 52 ≤ n.log2 + j) :
    divNearest (n * 2 ^ j) (2 ^ (n.log2 + j - 52)) * 2 ^ n.log2 = nearestNat n * 2 ^ 52 := by
  rcases Nat.lt_or_ge n.log2 52 with hsmall | hlarge
  · have hsplit : 2 ^ j = 2 ^ (52 - n.log2) * 2 ^ (n.log2 + j - 52) := by
      rw [← Nat.pow_add]
      congr 1
      omega
    rw [hsplit, ← Nat.mul_assoc, divNearest_mul_self _ (Nat.two_pow_pos _),
      nearestNat_of_log2_le (Nat.le_of_lt hsmall), Nat.mul_assoc, ← Nat.pow_add,
      Nat.sub_add_cancel (Nat.le_of_lt hsmall)]
  · have hsplit : 2 ^ (n.log2 + j - 52) = 2 ^ (n.log2 - 52) * 2 ^ j := by
      rw [← Nat.pow_add]
      congr 1
      omega
    rw [hsplit, divNearest_mul_right _ _ (Nat.two_pow_pos j), nearestNat, Nat.mul_assoc,
      ← Nat.pow_add, Nat.sub_add_cancel hlarge]

theorem nearestNat_bounds (hn : n ≠ 0) :
    2 ^ n.log2 ≤ nearestNat n ∧ nearestNat n ≤ 2 ^ (n.log2 + 1) := by
  rcases Nat.lt_or_ge n.log2 52 with hsmall | hlarge
  · rw [nearestNat_of_log2_le (Nat.le_of_lt hsmall)]
    exact ⟨Nat.log2_self_le hn, Nat.le_of_lt Nat.lt_log2_self⟩
  · obtain ⟨t, hlog⟩ := Nat.exists_eq_add_of_le hlarge
    obtain ⟨hlow, hhigh⟩ := significand_bounds hn hlog
    rw [nearestNat, hlog, Nat.add_sub_cancel_left, show 52 + t + 1 = 53 + t by omega, Nat.pow_add,
      Nat.pow_add]
    exact ⟨Nat.mul_le_mul_right _ hlow, Nat.mul_le_mul_right _ hhigh⟩

theorem nearestNat_mono (h : m ≤ n) : nearestNat m ≤ nearestNat n := by
  rcases Nat.eq_zero_or_pos m with rfl | hpos
  · exact Nat.zero_le _
  have hm := Nat.ne_of_gt hpos
  have hn : n ≠ 0 := by omega
  have hlog : m.log2 ≤ n.log2 := (Nat.le_log2 hn).2 (Nat.le_trans (Nat.log2_self_le hm) h)
  rcases Nat.lt_or_eq_of_le hlog with hlt | heq
  · -- A power of two lies between the two.
    calc nearestNat m ≤ 2 ^ (m.log2 + 1) := (nearestNat_bounds hm).2
      _ ≤ 2 ^ n.log2 := Nat.pow_le_pow_right Nat.two_pos hlt
      _ ≤ nearestNat n := (nearestNat_bounds hn).1
  · rw [nearestNat, nearestNat, heq]
    exact Nat.mul_le_mul_right _ (divNearest_mono h _)

/-- The integer to 53 binary digits. -/
def nearestInt (n : Int) : Int := if n < 0 then -nearestNat n.natAbs else nearestNat n.natAbs

/-- Integers of up to 53 digits are kept. -/
theorem nearestInt_eq {n : Int} (h : n.natAbs ≤ 2 ^ 53) : nearestInt n = n := by
  have hnat : nearestNat n.natAbs = n.natAbs := by
    rcases Nat.lt_or_eq_of_le h with hlt | heq
    · exact nearestNat_of_lt hlt
    · rw [heq]
      decide +kernel
  rw [nearestInt, hnat]
  split <;> omega

/-- Rounding keeps the order of integers. -/
theorem nearestInt_le {m n : Int} (h : m ≤ n) : nearestInt m ≤ nearestInt n := by
  unfold nearestInt
  split <;> split
  · have := @nearestNat_mono n.natAbs m.natAbs (by omega)
    omega
  · omega
  · omega
  · have := @nearestNat_mono m.natAbs n.natAbs (by omega)
    omega

end SearchQuery.Number
