import Mathlib
import SearchQuery.Number.Digits

/-!
# The order of written numbers

Texts are compared character by character. Numbers that are written with the same number of digits
compare as texts like they do as numbers (`compare_padded`), and what is written in parts of a fixed
width compares part by part (`compare_append`).
-/

namespace SearchQuery.Text

theorem compare_toList (a b : String) : compare a b = compare a.toList b.toList := by
  have hlist (l m : List Char) :
      (if l < m then Ordering.lt else if l = m then .eq else .gt) = compare l m := by
    induction l generalizing m with
    | nil => cases m <;> simp
    | cons c l ih =>
      cases m with
      | nil => simp
      | cons d m =>
        rw [List.compare_cons_cons, ← ih]
        change _ = (if c < d then Ordering.lt else if c = d then .eq else .gt).then _
        by_cases hlt : c < d
        · simp [List.cons_lt_cons_iff, hlt]
        · by_cases heq : c = d
          · subst heq
            simp
          · simp [List.cons_lt_cons_iff, hlt, heq]
  rw [← hlist]
  change (if a < b then Ordering.lt else if a = b then .eq else .gt) = _
  simp only [String.toList_inj]
  rfl

variable {α : Type} [Ord α]

/-- Texts of the same length decide before what follows them. -/
theorem compare_append {xs ys : List α} (h : xs.length = ys.length) (xs' ys' : List α) :
    compare (xs ++ xs') (ys ++ ys') = (compare xs ys).then (compare xs' ys') := by
  induction xs generalizing ys with
  | nil =>
    obtain rfl := List.eq_nil_of_length_eq_zero h.symm
    rfl
  | cons x xs ih =>
    cases ys with
    | nil => cases h
    | cons y ys =>
      rw [List.cons_append, List.cons_append, List.compare_cons_cons, List.compare_cons_cons,
        ih (Nat.succ.inj h), Ordering.then_assoc]

/-- A sign that both texts start with does not decide. -/
theorem compare_cons_self [Std.ReflOrd α] (x : α) (xs ys : List α) :
    compare (x :: xs) (x :: ys) = compare xs ys := by
  rw [List.compare_cons_cons, Std.ReflOrd.compare_self, Ordering.eq_then]

/-! ## Digits -/

/-- Numbers compare by their leading part first. -/
theorem compare_div_mod {b : Nat} (hb : 0 < b) (m n : Nat) :
    compare m n = (compare (m / b) (n / b)).then (compare (m % b) (n % b)) := by
  have hm := Nat.div_add_mod m b
  have hn := Nat.div_add_mod n b
  have hm' := Nat.mod_lt m hb
  have hn' := Nat.mod_lt n hb
  rcases Nat.lt_trichotomy (m / b) (n / b) with hlt | heq | hgt
  · have hle := Nat.mul_le_mul_left b hlt
    rw [Nat.mul_succ] at hle
    rw [Nat.compare_eq_lt.2 hlt, Nat.compare_eq_lt.2 (by omega)]
    rfl
  · rw [Nat.compare_eq_eq.2 heq, Ordering.eq_then]
    rw [heq] at hm
    rcases Nat.lt_trichotomy (m % b) (n % b) with hlt | heq | hgt
    · rw [Nat.compare_eq_lt.2 hlt, Nat.compare_eq_lt.2 (by omega)]
    · rw [Nat.compare_eq_eq.2 heq, Nat.compare_eq_eq.2 (by omega)]
    · rw [Nat.compare_eq_gt.2 hgt, Nat.compare_eq_gt.2 (by omega)]
  · have hle := Nat.mul_le_mul_left b hgt
    rw [Nat.mul_succ] at hle
    rw [Nat.compare_eq_gt.2 hgt, Nat.compare_eq_gt.2 (by omega)]
    rfl

theorem compare_digitChar {m n : Nat} (hm : m < 10) (hn : n < 10) :
    compare m.digitChar n.digitChar = compare m n := by
  have h : ∀ i j : Fin 10, compare i.val.digitChar j.val.digitChar = compare i.val j.val := by
    decide
  exact h ⟨m, hm⟩ ⟨n, hn⟩

open Number

theorem padded_one {n : Nat} (h : n < 10) : (padded 1 n).toList = [n.digitChar] := by
  simp [padded, Nat.toDigits_of_lt_base h]

/-- The last digit of a written number stands apart. -/
theorem padded_succ {width : Nat} (hwidth : 0 < width) (n : Nat) :
    (padded (width + 1) n).toList = (padded width (n / 10)).toList ++ [(n % 10).digitChar] := by
  rw [padded, padded, String.toList_ofList, String.toList_ofList, Nat.toDigits_eq_if (by omega)]
  split
  · rename_i h
    obtain ⟨width, rfl⟩ := Nat.exists_eq_add_one_of_ne_zero (show width ≠ 0 by omega)
    rw [Nat.div_eq_of_lt h, Nat.mod_eq_of_lt h, Nat.toDigits_zero]
    simp [List.replicate_succ']
  · rw [List.length_append, List.length_singleton, Nat.add_sub_add_right, List.append_assoc]

theorem length_padded {width n : Nat} (hwidth : 0 < width) (h : n < 10 ^ width) :
    (padded width n).toList.length = width := by
  have hlength := (Nat.length_toDigits_le_iff (b := 10) (by omega) hwidth).2 h
  rw [padded, String.toList_ofList, List.length_append, List.length_replicate]
  omega

/-- Numbers of one width compare as texts like they do as numbers. -/
theorem compare_padded {width m n : Nat} (hwidth : 0 < width) (hm : m < 10 ^ width)
    (hn : n < 10 ^ width) :
    compare (padded width m).toList (padded width n).toList = compare m n := by
  obtain ⟨width, rfl⟩ := Nat.exists_eq_add_one_of_ne_zero (show width ≠ 0 by omega)
  induction width generalizing m n with
  | zero =>
    rw [Nat.zero_add, Nat.pow_one] at hm hn
    rw [padded_one hm, padded_one hn, List.compare_cons_cons, compare_digitChar hm hn,
      List.compare_nil_nil, Ordering.then_eq]
  | succ width ih =>
    have hm' : m / 10 < 10 ^ (width + 1) := by
      rw [Nat.pow_succ] at hm
      omega
    have hn' : n / 10 < 10 ^ (width + 1) := by
      rw [Nat.pow_succ] at hn
      omega
    have hlength : (padded (width + 1) (m / 10)).toList.length =
        (padded (width + 1) (n / 10)).toList.length := by
      rw [length_padded (by omega) hm', length_padded (by omega) hn']
    rw [padded_succ (by omega) m, padded_succ (by omega) n, compare_append hlength,
      ih (by omega) hm' hn', List.compare_cons_cons, List.compare_nil_nil, Ordering.then_eq,
      compare_digitChar (Nat.mod_lt _ (by omega)) (Nat.mod_lt _ (by omega)),
      ← compare_div_mod (by omega)]

/-- A number of one width decides before what follows it. -/
theorem compare_padded_append {width m n : Nat} (hwidth : 0 < width) (hm : m < 10 ^ width)
    (hn : n < 10 ^ width) (xs ys : List Char) :
    compare ((padded width m).toList ++ xs) ((padded width n).toList ++ ys) =
      (compare m n).then (compare xs ys) := by
  have hlength : (padded width m).toList.length = (padded width n).toList.length := by
    rw [length_padded hwidth hm, length_padded hwidth hn]
  rw [compare_append hlength, compare_padded hwidth hm hn]

/-- A written number falls into a leading and a trailing part. -/
theorem padded_add {i j : Nat} (hi : 0 < i) (hj : 0 < j) (n : Nat) :
    (padded (i + j) n).toList =
      (padded i (n / 10 ^ j)).toList ++ (padded j (n % 10 ^ j)).toList := by
  obtain ⟨j, rfl⟩ := Nat.exists_eq_add_one_of_ne_zero (show j ≠ 0 by omega)
  induction j generalizing n with
  | zero => rw [Nat.zero_add, Nat.pow_one, padded_succ hi, padded_one (Nat.mod_lt _ (by omega))]
  | succ j ih =>
    rw [← Nat.add_assoc, padded_succ (by omega), ih (n / 10) (by omega),
      padded_succ (by omega) (n % _), List.append_assoc, Nat.div_div_eq_div_mul, ← Nat.pow_succ']
    have hdiv : n % 10 ^ (j + 1 + 1) / 10 = n / 10 % 10 ^ (j + 1) := by
      rw [Nat.pow_succ 10 (j + 1), Nat.mul_comm, Nat.mod_mul_right_div_self]
    have hmod : n % 10 ^ (j + 1 + 1) % 10 = n % 10 := by
      rw [Nat.pow_succ 10 (j + 1), Nat.mod_mul_left_mod]
    rw [hdiv, hmod]

end SearchQuery.Text
