import Mathlib
import SearchQuery.Json.Basic
import SearchQuery.Proofs.Number.Rounding

/-!
# Doubles that are integers

- `IsInteger` says of an unpacked double which integer it is. Such doubles are packed and unpacked
  without loss, and compare as the integers do (`IsInteger.compare`).
- An integer of up to 64 digits becomes the double that is the integer to 53 digits
  (`JsonNumber.isInteger_toFloat`).
- Any two doubles compare in either order alike (`compareFloat_swap`).
-/

namespace SearchQuery.Number

open Float.Model (UnpackedFloat Format totalExponent)
open Float.Model.UnpackedFloat Float.Model.Format

/-! ## Significands -/

/-- `m` is the first 53 binary digits of `k`, of which the leading one counts `2 ^ t`. There are no
others but zeros. -/
structure HasSignificand (k m t : Nat) : Prop where
  low : 2 ^ 52 ≤ m
  high : m < 2 ^ 53
  place : t ≤ 64
  value : k * 2 ^ 52 = m * 2 ^ t

namespace HasSignificand

variable {k m t k' m' t' : Nat}

theorem pos (h : HasSignificand k m t) : 0 < k := by
  have hpos : 0 < m * 2 ^ t := Nat.mul_pos (by have := h.low; omega) (Nat.two_pow_pos t)
  rw [← h.value] at hpos
  exact Nat.pos_of_mul_pos_right hpos

theorem place_le_log2 (h : HasSignificand k m t) : t ≤ k.log2 := by
  refine (Nat.le_log2 (Nat.ne_of_gt h.pos)).2 (Nat.le_of_mul_le_mul_left ?_ (Nat.two_pow_pos 52))
  calc 2 ^ 52 * 2 ^ t ≤ m * 2 ^ t := Nat.mul_le_mul_right _ h.low
    _ = 2 ^ 52 * k := by rw [← h.value, Nat.mul_comm]

/-- A number with a smaller leading place is smaller. -/
theorem lt_of_place_lt (h : HasSignificand k m t) (h' : HasSignificand k' m' t') (hlt : t < t') :
    k < k' := by
  have hscaled : k * 2 ^ 52 < k' * 2 ^ 52 := by
    calc k * 2 ^ 52 = m * 2 ^ t := h.value
      _ < 2 ^ 53 * 2 ^ t := Nat.mul_lt_mul_of_pos_right h.high (Nat.two_pow_pos t)
      _ = 2 ^ 52 * 2 ^ (t + 1) := by rw [← Nat.pow_add, ← Nat.pow_add]; congr 1; omega
      _ ≤ 2 ^ 52 * 2 ^ t' := Nat.mul_le_mul_left _ (Nat.pow_le_pow_right Nat.two_pos hlt)
      _ ≤ m' * 2 ^ t' := Nat.mul_le_mul_right _ h'.low
      _ = k' * 2 ^ 52 := h'.value.symm
  exact Nat.lt_of_mul_lt_mul_right hscaled

/-- Numbers compare by their leading places, and then by their digits. -/
theorem compare (h : HasSignificand k m t) (h' : HasSignificand k' m' t') :
    (Ord.compare ((t : Int) - 52) (t' - 52)).then (Ord.compare m m') =
      Ord.compare (k : Int) k' := by
  rcases Nat.lt_trichotomy t t' with hlt | rfl | hgt
  · have hk := h.lt_of_place_lt h' hlt
    rw [Int.compare_eq_lt.2 (by omega), Int.compare_eq_lt.2 (by omega)]
    rfl
  · have hvalue := h.value
    have hvalue' := h'.value
    have hpow := Nat.two_pow_pos t
    rw [Int.compare_eq_eq.2 rfl, Ordering.then]
    rcases Nat.lt_trichotomy m m' with hlt | rfl | hgt
    · have := Nat.mul_lt_mul_of_pos_right hlt hpow
      rw [Nat.compare_eq_lt.2 hlt, Int.compare_eq_lt.2 (by omega)]
    · rw [Nat.compare_eq_eq.2 rfl, Int.compare_eq_eq.2 (by omega)]
    · have := Nat.mul_lt_mul_of_pos_right hgt hpow
      rw [Nat.compare_eq_gt.2 hgt, Int.compare_eq_gt.2 (by omega)]
  · have hk := h'.lt_of_place_lt h hgt
    rw [Int.compare_eq_gt.2 (by omega), Int.compare_eq_gt.2 (by omega)]
    rfl

end HasSignificand

/-! ## Unpacked doubles -/

/-- The double is zero, or it is an integer by its sign, digits and exponent. -/
inductive IsInteger : UnpackedFloat → Int → Prop
  | zero (s : Sign) : IsInteger (.zero s) 0
  | finite (s : Sign) {k m t : Nat} (h : HasSignificand k m t) (hm : 0 < m) :
      IsInteger (.finite s m (t - 52) hm) (s.apply k)

namespace IsInteger

variable {u v : UnpackedFloat} {a b : Int}

theorem neg (h : IsInteger u a) : IsInteger u.neg (-a) := by
  cases h with
  | zero s => exact .zero (-s)
  | finite s h hm =>
    cases s with
    | positive => exact .finite .negative h hm
    | negative =>
      rw [Sign.apply, Int.neg_neg]
      exact .finite .positive h hm

theorem compare_neg_neg (m n : Int) : Ord.compare (-m) (-n) = (Ord.compare m n).swap := by
  rcases Int.lt_trichotomy m n with hlt | rfl | hgt
  · rw [Int.compare_eq_lt.2 hlt, Int.compare_eq_gt.2 (by omega)]
    rfl
  · rw [Int.compare_eq_eq.2 rfl, Int.compare_eq_eq.2 rfl]
    rfl
  · rw [Int.compare_eq_gt.2 hgt, Int.compare_eq_lt.2 (by omega)]
    rfl

/-- Doubles that are integers compare as the integers. -/
theorem compare (h : IsInteger u a) (h' : IsInteger v b) :
    u.compare v = some (Ord.compare a b) := by
  have hlt {a b : Int} (hab : a < b) : some Ordering.lt = some (Ord.compare a b) := by
    rw [Int.compare_eq_lt.2 hab]
  have hgt {a b : Int} (hab : b < a) : some Ordering.gt = some (Ord.compare a b) := by
    rw [Int.compare_eq_gt.2 hab]
  cases h with
  | zero s =>
    cases h' with
    | zero s' => rfl
    | finite s' h' hm' =>
      have hpos' := h'.pos
      cases s' with
      | positive => exact hlt (by simp only [Sign.apply]; omega)
      | negative => exact hgt (by simp only [Sign.apply]; omega)
  | finite s h hm =>
    have hpos := h.pos
    cases h' with
    | zero s' =>
      cases s with
      | positive => exact hgt (by simp only [Sign.apply]; omega)
      | negative => exact hlt (by simp only [Sign.apply]; omega)
    | finite s' h' hm' =>
      have hpos' := h'.pos
      cases s with
      | positive =>
        cases s' with
        | positive => exact congrArg some (h.compare h')
        | negative => exact hgt (by simp only [Sign.apply]; omega)
      | negative =>
        cases s' with
        | positive => exact hlt (by simp only [Sign.apply]; omega)
        | negative =>
          rw [Sign.apply, Sign.apply, compare_neg_neg, ← h.compare h']
          rfl

end IsInteger

/-! ## Packed doubles -/

/-- The leading one of the digits, which is left out where they are packed, is put back. -/
theorem toNat_append_leading {m : Nat} (hlow : 2 ^ 52 ≤ m) (hhigh : m < 2 ^ 53) :
    (1#1 ++ BitVec.ofNat 52 m).toNat = m := by
  rw [BitVec.toNat_append, ← Nat.shiftLeft_add_eq_or_of_lt (BitVec.isLt _), Nat.shiftLeft_eq]
  simp only [BitVec.toNat_ofNat]
  omega

/-- An integer is packed without loss. -/
theorem IsInteger.unpack_pack {u : UnpackedFloat} {a : Int} (h : IsInteger u a) :
    unpack binary64 (pack binary64 u) = u := by
  cases h with
  | zero s => cases s <;> rfl
  | @finite s k m t h hm =>
    have hplace := h.place
    have hbias : binary64.exponentBias = 1023 := rfl
    have hlog : m.log2 + 1 = binary64.mantissaBits := by
      rw [(Nat.log2_eq_iff (Nat.ne_of_gt hm)).2 ⟨h.low, h.high⟩]
      rfl
    have hbiased : ((t : Int) - 52 + binary64.exponentBias +
        binary64.mantissaBitsWithoutImplicit).toNat = t + 1023 := by
      rw [hbias]
      simp only
      omega
    have hback : ((t + 1023 : Nat) : Int) - (binary64.exponentBias + (52 : Nat)) = t - 52 := by
      rw [hbias]
      omega
    -- The exponent is that of a number with a leading one.
    have hexponent : (BitVec.ofNat 11 (t + 1023)).toNat = t + 1023 := by
      rw [BitVec.toNat_ofNat]
      exact Nat.mod_eq_of_lt (by omega)
    have hfinite : ¬ 2 ^ 11 ≤ t + 1023 + 1 := by omega
    have hnormal : BitVec.ofNat 11 (t + 1023) ≠ 0#11 := by
      rw [Ne, ← BitVec.toNat_inj, hexponent]
      simp
    have hnumber : BitVec.ofNat 11 (t + 1023) ≠ -1#11 := by
      rw [Ne, ← BitVec.toNat_inj, hexponent]
      simp
      omega
    rw [pack]
    simp only [hbiased, hlog, if_neg hfinite, if_true]
    unfold unpack
    simp only [unpackMantissa_packComponents, unpackExponent_packComponents,
      unpackSign_packComponents, Sign.ofBitVec_toBitVec, if_neg hnumber, if_neg hnormal,
      hexponent, toNat_append_leading h.low h.high]
    simp only [hback]

/-! ## Rounding -/

/-- The digits that are left of a number which is shifted, and whether those shifted out are half of
a unit or more, and anything but that. -/
theorem shiftRight_succ (n t : Nat) :
    ExtendedMantissa.ofMantissaAndAccuracy n .exact >>> (t + 1) =
      ⟨n / 2 ^ (t + 1), n / 2 ^ t % 2 != 0, n % 2 ^ t != 0⟩ := by
  induction t with
  | zero =>
    simp [HShiftRight.hShiftRight, Nat.repeat, ExtendedMantissa.shiftRightOne,
      ExtendedMantissa.ofMantissaAndAccuracy, Nat.mod_one]
  | succ t ih =>
    change (ExtendedMantissa.ofMantissaAndAccuracy n .exact >>> (t + 1)).shiftRightOne = _
    rw [ih, ExtendedMantissa.shiftRightOne]
    have hsticky : (n / 2 ^ t % 2 != 0 || n % 2 ^ t != 0) = (n % 2 ^ (t + 1) != 0) := by
      have hpos := Nat.two_pow_pos t
      rw [Nat.mod_pow_succ]
      rcases Nat.mod_two_eq_zero_or_one (n / 2 ^ t) with h | h <;> simp [h]
    rw [hsticky, Nat.div_div_eq_div_mul, ← Nat.pow_succ]

theorem mantissa_shiftRight (n t : Nat) :
    (ExtendedMantissa.ofMantissaAndAccuracy n .exact >>> t).mantissa = n / 2 ^ t := by
  cases t with
  | zero => exact (Nat.div_one n).symm
  | succ t => rw [shiftRight_succ]

/-- Digits that are shifted out are rounded off. -/
theorem roundedMantissa_shiftRight (n t : Nat) :
    (ExtendedMantissa.ofMantissaAndAccuracy n .exact >>> t).roundedMantissa =
      divNearest n (2 ^ t) := by
  cases t with
  | zero =>
    rw [Nat.pow_zero, divNearest_one]
    rfl
  | succ t =>
    have hpos := Nat.two_pow_pos t
    have hhalf := Nat.mod_lt n hpos
    have hpow : 2 ^ (t + 1) = 2 * 2 ^ t := Nat.pow_succ'
    rw [shiftRight_succ, divNearest, Nat.mod_pow_succ]
    rcases Nat.mod_two_eq_zero_or_one (n / 2 ^ t) with hround | hround <;>
      rcases Nat.eq_zero_or_pos (n % 2 ^ t) with hsticky | hsticky
    · rw [hround, hsticky, if_pos (by omega)]
      rfl
    · rw [hround, bne_iff_ne.2 (Nat.ne_of_gt hsticky), if_pos (by omega)]
      rfl
    · rw [hround, hsticky, if_neg (by omega), if_neg (by omega)]
      rfl
    · rw [hround, bne_iff_ne.2 (Nat.ne_of_gt hsticky), if_neg (by omega), if_pos (by omega)]
      rfl

theorem targetExponent_eq {n : Nat} {e : Int} (h : -1022 ≤ n.log2 + e) :
    binary64.targetExponent (totalExponent n e) = n.log2 + e - 52 := by
  have hmin : binary64.minExponent = -1074 := rfl
  have hbits : binary64.mantissaBits = 53 := rfl
  rw [targetExponent, totalExponent, hmin, hbits]
  omega

theorem shiftToTargetExponent_eq {n t : Nat} {e : Int} (h : -1022 ≤ n.log2 + e)
    (ht : n.log2 = 52 + t) : shiftToTargetExponent binary64 n e .exact =
      (ExtendedMantissa.ofMantissaAndAccuracy n .exact >>> t, e + t) := by
  have hshift : ((n.log2 : Int) + e - 52 - e).toNat = t := by omega
  rw [shiftToTargetExponent, targetExponent_eq h, shiftToExponent, hshift]

/-- The digits of a number after rounding, which may have one more place than before. -/
theorem roundWithAccuracy_digits {n q t : Nat} {e : Int} (s : Sign) (hlow : 2 ^ 52 ≤ q)
    (hhigh : q ≤ 2 ^ 53) (he : -1022 ≤ n.log2 + e) (hlog : n.log2 = 52 + t)
    (hq : divNearest n (2 ^ t) = q) :
    ∃ (m place : Nat) (hm : 0 < m), 2 ^ 52 ≤ m ∧ m < 2 ^ 53 ∧ m * 2 ^ place = q ∧ place ≤ 1 ∧
      roundWithAccuracy binary64 s n e .exact = .finite s m (e + t + place) hm := by
  have hsecond {m place : Nat} (hm : 0 < m) (hlow : 2 ^ 52 ≤ m) (hhigh : m < 2 ^ 53)
      (hqlog : q.log2 = 52 + place) (hq' : q / 2 ^ place = m) :
      roundWithAccuracy binary64 s n e .exact = .finite s m (e + t + place) hm := by
    have hagain := shiftToTargetExponent_eq (n := q) (e := e + t) (by omega) hqlog
    unfold roundWithAccuracy
    simp only [shiftToTargetExponent_eq he hlog, roundedMantissa_shiftRight, hq, hagain,
      mantissa_shiftRight, hq', dif_neg (Nat.ne_of_gt hm)]
  rcases Nat.lt_or_eq_of_le hhigh with hlt | heq
  · refine ⟨q, 0, by omega, hlow, hlt, by simp, by omega, hsecond _ hlow hlt ?_ (by simp)⟩
    exact (Nat.log2_eq_iff (by omega)).2 ⟨hlow, hlt⟩
  · refine ⟨2 ^ 52, 1, by decide, Nat.le_refl _, by decide, heq.symm, Nat.le_refl _, ?_⟩
    refine hsecond _ (Nat.le_refl _) (by decide) ?_ ?_
    · rw [heq, Nat.log2_two_pow]
    · subst heq
      decide

/-- A number that is given with enough digits after the point is rounded to 53 digits. -/
theorem isInteger_roundWithAccuracy {n j : Nat} (s : Sign) (hn : n ≠ 0) (hsize : n < 2 ^ 64)
    (hj : 52 ≤ n.log2 + j) :
    IsInteger (roundWithAccuracy binary64 s (n * 2 ^ j) (-j) .exact) (s.apply (nearestNat n)) := by
  obtain ⟨t, ht⟩ := Nat.exists_eq_add_of_le hj
  have hlog : (n * 2 ^ j).log2 = 52 + t := by rw [log2_mul_two_pow hn, ht]
  have hvalue := significand_mul_two_pow hj
  rw [ht, Nat.add_sub_cancel_left] at hvalue
  have hne : n * 2 ^ j ≠ 0 := Nat.mul_ne_zero hn (Nat.ne_of_gt (Nat.two_pow_pos j))
  obtain ⟨hlow, hhigh⟩ := significand_bounds hne hlog
  obtain ⟨m, place, hm, hlow, hhigh, hq, hplace, hround⟩ :=
    roundWithAccuracy_digits (e := -j) s hlow hhigh (by omega) hlog rfl
  have hexponent : -(j : Int) + t + place = (n.log2 + place : Nat) - 52 := by omega
  have hsignificand : HasSignificand (nearestNat n) m (n.log2 + place) := by
    refine ⟨hlow, hhigh, ?_, ?_⟩
    · have := (Nat.log2_lt hn).2 hsize
      omega
    · rw [← hvalue, ← hq, Nat.mul_assoc, ← Nat.pow_add, Nat.add_comm]
  rw [hround]
  simp only [hexponent]
  exact .finite s hsignificand hm

/-! ## Doubles -/

theorem IsInteger.pack {u : UnpackedFloat} {a : Int} (h : IsInteger u a) :
    IsInteger (Float.Model.pack u).unpack a := by
  have hpacked : (Float.Model.pack u).unpack = u := h.unpack_pack
  rwa [hpacked]

/-- A product with one, of which the digits are rounded once more. -/
theorem IsInteger.mul_one {u : UnpackedFloat} {a : Int} (h : IsInteger u a)
    (ha : a.natAbs < 2 ^ 53) :
    IsInteger (mul binary64 u (.finite .positive (2 ^ 52) (-52) (by decide))) a := by
  cases h with
  | zero s => exact .zero _
  | @finite s k m t h hm =>
    have hsign : s * Sign.positive = s := by cases s <;> rfl
    have hk : k < 2 ^ 53 := by cases s <;> simpa [Sign.apply] using ha
    have hplace := h.place
    have hdigits : m * 2 ^ 52 = k * 2 ^ (104 - t) := by
      refine Nat.eq_of_mul_eq_mul_right (Nat.two_pow_pos t) ?_
      calc m * 2 ^ 52 * 2 ^ t = k * 2 ^ 52 * 2 ^ 52 := by rw [h.value, Nat.mul_right_comm]
        _ = k * 2 ^ (104 - t) * 2 ^ t := by
          rw [Nat.mul_assoc, Nat.mul_assoc, ← Nat.pow_add, ← Nat.pow_add]
          congr 2
          omega
    have hexponent : ((t : Int) - 52 + -52) = -((104 - t : Nat) : Int) := by omega
    have hround := isInteger_roundWithAccuracy (j := 104 - t) s (Nat.ne_of_gt h.pos) (by omega)
      (by have := h.place_le_log2; omega)
    rw [nearestNat_of_lt hk, ← hdigits, ← hexponent] at hround
    rw [mul, hsign]
    exact hround

/-- A number of up to 53 digits is taken as it is. -/
theorem isInteger_ofNat_of_lt {n : Nat} (hn : n < 2 ^ 53) :
    IsInteger (UnpackedFloat.ofNat binary64 n) n := by
  rcases Nat.eq_zero_or_pos n with rfl | hpos
  · exact .zero .positive
  · have hne := Nat.ne_of_gt hpos
    have hlog : n.log2 < 53 := (Nat.log2_lt hne).2 hn
    have hshift : (-((n.log2 : Int) + 0 - 52)).toNat = 52 - n.log2 := by omega
    have hround :=
      isInteger_roundWithAccuracy (j := 52 - n.log2) .positive hne (by omega) (by omega)
    rw [nearestNat_of_lt hn] at hround
    unfold UnpackedFloat.ofNat UnpackedFloat.ofInt UnpackedFloat.normalize
    rw [Int.compare_eq_gt.2 (by omega)]
    simp only [UnpackedFloat.round, Int.toNat_natCast, targetExponent_eq (n := n) (e := 0) (by omega),
      decreaseExponent, hshift, Nat.shiftLeft_eq, Int.zero_sub]
    exact hround

/-- A number of any size is first given 53 digits after the point. -/
theorem isInteger_ofScientific {n : Nat} (hn : n ≠ 0) (hsize : n < 2 ^ 64) :
    IsInteger (ofScientific binary64 n 0) (nearestNat n) := by
  have hround := isInteger_roundWithAccuracy (j := 53) .positive hn hsize (by omega)
  have hbits : (2 : Int) ^ binary64.exponentBits = 2048 := rfl
  have hsmall : ¬ (0 : Int) < -((2 : Int) ^ binary64.exponentBits + n.log2) := by omega
  rw [ofScientific, dif_neg hn, if_neg (by decide), if_neg hsmall, if_pos (Int.le_refl 0), mul]
  simp only [Nat.shiftLeft_eq, Int.toNat_zero, Nat.pow_zero, Nat.mul_one]
  exact hround

theorem isInteger_ofNat {n : Nat} (hsize : n < 2 ^ 64) :
    IsInteger (Float.ofNat n).toModel.unpack (nearestNat n) := by
  unfold Float.ofNat
  change IsInteger (Float.ofScientific n false 0).toModel.unpack (nearestNat n)
  unfold Float.ofScientific
  split
  case isTrue hfits =>
    have hone : (Float.Model.ofBits 0x3FF0000000000000).unpack =
      .finite .positive (2 ^ 52) (-52) (by decide) := rfl
    have hword : n.toUInt64.toNat = n := Nat.mod_eq_of_lt (by omega)
    have hself : IsInteger (n.toUInt64.toFloat).toModel.unpack n := by
      change IsInteger (Float.Model.pack (UnpackedFloat.ofNat binary64 n.toUInt64.toNat)).unpack n
      rw [hword]
      exact (isInteger_ofNat_of_lt hfits.1).pack
    rw [nearestNat_of_lt hfits.1]
    have hproduct := (hself.mul_one hfits.1).pack
    rw [← hone] at hproduct
    exact hproduct
  case isFalse hlarge =>
    exact (isInteger_ofScientific (by omega) hsize).pack

theorem lt_iff {x y : Float} : x < y ↔ x.toModel.unpack.compare y.toModel.unpack = some .lt := by
  change decide (x.toModel < y.toModel) = true ↔ _
  rw [decide_eq_true_iff]
  change (x.toModel.unpack.compare y.toModel.unpack == some .lt) = true ↔ _
  rw [beq_iff_eq]

/-- Unpacked doubles in the other order. -/
theorem compare_unpacked_swap (a b : UnpackedFloat) :
    (a.compare b).map Ordering.swap = b.compare a := by
  have hsign (s t : Float.Model.UnpackedFloat.Sign) : (compare s t).swap = compare t s := by
    cases s <;> cases t <;> rfl
  have hdigits (e e' : Int) (m m' : Nat) :
      ((compare e e').then (compare m m')).swap = (compare e' e).then (compare m' m) := by
    rw [Ordering.swap_then, Int.compare_swap, Nat.compare_swap]
  cases a with
  | notANumber => cases b <;> rfl
  | infinity s =>
    cases b with
    | infinity t => exact congrArg some (hsign s t)
    | finite t => cases s <;> cases t <;> rfl
    | _ => cases s <;> rfl
  | zero s =>
    cases b with
    | infinity t => cases t <;> rfl
    | finite t => cases t <;> rfl
    | _ => rfl
  | finite s m e =>
    cases b with
    | finite t m' e' =>
      cases s <;> cases t
      · simp [UnpackedFloat.compare, hdigits]
      · rfl
      · rfl
      · simp [UnpackedFloat.compare, hdigits]
    | infinity t => cases s <;> cases t <;> rfl
    | _ => cases s <;> rfl

theorem compareFloat_eq_unpacked (x y : Float) :
    compareFloat x y = x.toModel.unpack.compare y.toModel.unpack := by
  have heq : (x == y) = (x.toModel.unpack.compare y.toModel.unpack == some .eq) := rfl
  rw [compareFloat, heq]
  simp only [lt_iff, ← compare_unpacked_swap x.toModel.unpack y.toModel.unpack]
  rcases x.toModel.unpack.compare y.toModel.unpack with _ | _ | _ | _ <;> rfl

/-- Doubles in the other order. -/
theorem compareFloat_swap (x y : Float) :
    (compareFloat x y).map Ordering.swap = compareFloat y x := by
  rw [compareFloat_eq_unpacked, compareFloat_eq_unpacked, compare_unpacked_swap]

theorem compareFloat_eq {x y : Float} {a b : Int} (hx : IsInteger x.toModel.unpack a)
    (hy : IsInteger y.toModel.unpack b) : compareFloat x y = some (compare a b) := by
  have heq : (x == y) = (x.toModel.unpack.compare y.toModel.unpack == some .eq) := rfl
  have hgt := hy.compare hx
  rw [compareFloat, heq]
  simp only [lt_iff, hx.compare hy, hgt]
  rw [← Int.compare_swap a b]
  cases compare a b <;> rfl

end SearchQuery.Number

namespace SearchQuery.JsonNumber

open Number

/-- An integer of 64 digits is, as a double, the integer to 53 digits. -/
theorem isInteger_toFloat {n : Int} (hsize : n.natAbs < 2 ^ 64) :
    IsInteger (integer n).toFloat.toModel.unpack (nearestInt n) := by
  rw [toFloat, nearestInt]
  split
  · exact (isInteger_ofNat hsize).neg.pack
  · exact isInteger_ofNat hsize

/-- Integers compare as doubles do: by their first 53 digits. -/
theorem compareFloat_toFloat {m n : Int} (hm : m.natAbs < 2 ^ 64) (hn : n.natAbs < 2 ^ 64) :
    compareFloat (integer m).toFloat (integer n).toFloat =
      some (compare (nearestInt m) (nearestInt n)) :=
  compareFloat_eq (isInteger_toFloat hm) (isInteger_toFloat hn)

end SearchQuery.JsonNumber
