import Mathlib.Data.Int.Log
import Mathlib.Data.Rat.Floor
import Mathlib.Tactic.FieldSimp
import Mathlib.Tactic.Linarith
import Mathlib.Tactic.NormNum
import Mathlib.Tactic.Positivity
import AuditTrail.Decimal.Shortest

/-!
# Rounding to floats

The float nearest to a fraction depends on the value of the fraction only.  The scale of its
significand is read off the binary logarithm of this value, so that it does not matter how far the
fraction is cancelled; and a finite float, as the fraction that it is, has its own scale, at which
its significand needs no rounding.
-/

namespace AuditTrail.Binary64

/-! ## The scale of a fraction -/

/-- Unscaling divides by a power of two. -/
theorem unscale_eq (num den : Nat) (e : Int) :
    ((unscale num den e).1 : ℚ) / (unscale num den e).2 = num / den / 2 ^ e := by
  rw [unscale]
  obtain ⟨k, rfl | rfl⟩ := e.eq_nat_or_neg
  · simp [div_div]
  · simp [mul_div_right_comm]

theorem unscale_pos {num den : Nat} (den_pos : 0 < den) (e : Int) : 0 < (unscale num den e).2 :=
  Nat.mul_pos den_pos (Nat.pow_pos Nat.two_pos)

/-- The quotient of logarithms is that of the fraction, or greater by one. -/
theorem log_div {num den : Nat} (num_pos : 0 < num) (den_pos : 0 < den) :
    Int.log 2 ((num : ℚ) / den) = num.log2 - den.log2 - 1 ∨
      Int.log 2 ((num : ℚ) / den) = num.log2 - den.log2 := by
  have value_pos : (0 : ℚ) < num / den := by positivity
  have num_le : (2 : ℚ) ^ num.log2 ≤ num := by exact_mod_cast Nat.log2_self_le num_pos.ne'
  have num_lt : (num : ℚ) < 2 ^ (num.log2 + 1) := by exact_mod_cast Nat.lt_log2_self
  have den_le : (2 : ℚ) ^ den.log2 ≤ den := by exact_mod_cast Nat.log2_self_le den_pos.ne'
  have den_lt : (den : ℚ) < 2 ^ (den.log2 + 1) := by exact_mod_cast Nat.lt_log2_self
  have le_log : (num.log2 : Int) - (den.log2 + 1) ≤ Int.log 2 ((num : ℚ) / den) := by
    rw [← Int.zpow_le_iff_le_log Nat.one_lt_two value_pos]
    push_cast
    rw [zpow_sub₀ two_ne_zero]
    exact_mod_cast div_le_div₀ (by positivity) num_le (by positivity) den_lt.le
  have log_lt : Int.log 2 ((num : ℚ) / den) < num.log2 + 1 - den.log2 := by
    rw [← Int.lt_zpow_iff_log_lt Nat.one_lt_two value_pos]
    push_cast
    rw [zpow_sub₀ two_ne_zero]
    exact_mod_cast div_lt_div₀ num_lt den_le (by positivity) (by positivity)
  omega

/-- The scale is that of a significand of 53 bits, or the least one. -/
theorem fittingScale_eq {num den : Nat} (num_pos : 0 < num) (den_pos : 0 < den) :
    fittingScale num den = max (-1074) (Int.log 2 ((num : ℚ) / den) - 52) := by
  have value_pos : (0 : ℚ) < num / den := by positivity
  have fits_iff : (unscale num den (num.log2 - den.log2 - 53)).1 /
        (unscale num den (num.log2 - den.log2 - 53)).2 < Nat.pow 2 53 ↔
      Int.log 2 ((num : ℚ) / den) < num.log2 - den.log2 := by
    have scaled_pos : (0 : ℚ) < (unscale num den (num.log2 - den.log2 - 53)).2 := by
      exact_mod_cast unscale_pos den_pos _
    have power_eq : (2 : ℚ) ^ 53 * 2 ^ ((num.log2 : Int) - den.log2 - 53) =
        2 ^ ((num.log2 : Int) - den.log2) := by
      rw [← zpow_natCast, ← zpow_add₀ two_ne_zero]
      congr 1
      omega
    have power_pos : (0 : ℚ) < 2 ^ ((num.log2 : Int) - den.log2 - 53) := zpow_pos two_pos _
    rw [Nat.div_lt_iff_lt_mul (unscale_pos den_pos _),
      ← Int.lt_zpow_iff_log_lt Nat.one_lt_two value_pos, Nat.cast_two, ← power_eq,
      ← div_lt_iff₀ power_pos, ← unscale_eq, div_lt_iff₀ scaled_pos]
    exact_mod_cast Iff.rfl
  rw [fittingScale]
  simp only [fits_iff]
  rcases log_div num_pos den_pos with log_eq | log_eq
  · rw [if_pos (by omega)]
    omega
  · rw [if_neg (by omega)]
    omega

/-! ## Fractions of the same value -/

variable {num den k : Nat}

theorem roundHalfEven_mul (k_pos : 0 < k) (num den : Nat) :
    roundHalfEven (num * k) (den * k) = roundHalfEven num den := by
  simp only [roundHalfEven, Nat.mul_div_mul_right _ _ k_pos, Nat.mul_mod_mul_right,
    ← Nat.mul_assoc, Nat.mul_lt_mul_right k_pos, Nat.mul_left_inj k_pos.ne']

/-- A fraction that may be cancelled is rounded like the one that it cancels to. -/
theorem ofRatio_mul (den_pos : 0 < den) (k_pos : 0 < k) (negative : Bool) :
    ofRatio negative (num * k) (den * k) = ofRatio negative num den := by
  rcases Nat.eq_zero_or_pos num with rfl | num_pos
  · simp only [ofRatio, Nat.zero_mul, if_true]
  have scale_eq : fittingScale (num * k) (den * k) = fittingScale num den := by
    rw [fittingScale_eq (Nat.mul_pos num_pos k_pos) (Nat.mul_pos den_pos k_pos),
      fittingScale_eq num_pos den_pos, Nat.cast_mul, Nat.cast_mul,
      mul_div_mul_right _ _ (Nat.cast_ne_zero.mpr k_pos.ne')]
  simp only [ofRatio, if_neg num_pos.ne', if_neg (Nat.mul_pos num_pos k_pos).ne', scale_eq, unscale,
    Nat.mul_right_comm _ k, roundHalfEven_mul k_pos]

/-- Fractions of the same value are rounded alike. -/
theorem ofRatio_congr {num' den' : Nat} (den_pos : 0 < den) (den'_pos : 0 < den')
    (same : num * den' = num' * den) (negative : Bool) :
    ofRatio negative num den = ofRatio negative num' den' := by
  rw [← ofRatio_mul den_pos den'_pos, same, Nat.mul_comm den, ofRatio_mul den'_pos den_pos]

/-! ## Floats are their own rounding -/

theorem roundHalfEven_exact (k_pos : 0 < k) (n : Nat) : roundHalfEven (n * k) k = n := by
  simp only [roundHalfEven, Nat.mul_div_cancel n k_pos, Nat.mul_mod_left, Nat.mul_zero, if_pos,
    k_pos, true_or]

/-- The bits of a float. -/
theorem toNat_bits (x : Binary64) :
    x.bits.toNat =
      x.exponentField * 2 ^ 52 + x.fraction + if x.negative then 2 ^ 63 else 0 := by
  have lt := x.bits.toNat_lt
  simp only [exponentField, fraction, negative, Nat.pow_eq, decide_eq_true_eq] at *
  split <;> omega

theorem exponentField_lt {x : Binary64} (finite : x.isFinite = true) : x.exponentField < 0x7FF := by
  have ne : x.exponentField ≠ 0x7FF := by simpa [isFinite] using finite
  have lt : x.exponentField < Nat.pow 2 11 := Nat.mod_lt _ (by decide)
  simp only [Nat.pow_eq] at lt
  omega

theorem fraction_lt (x : Binary64) : x.fraction < 2 ^ 52 :=
  Nat.mod_lt _ (by decide)

/-- The magnitude bits of a finite float, by its significand and its scale. -/
theorem magnitude_eq (x : Binary64) :
    (x.scale + 1074).toNat * Nat.pow 2 52 + x.significand =
      x.exponentField * 2 ^ 52 + x.fraction := by
  simp only [scale, significand, Nat.pow_eq]
  split
  next zero => simp [zero]
  next => omega

theorem significand_lt (x : Binary64) : x.significand < 2 ^ 53 := by
  have lt := x.fraction_lt
  simp only [significand, Nat.pow_eq]
  split <;> omega

/-- The significand has 53 bits, unless the scale is the least one. -/
theorem le_significand {x : Binary64} (scale_ne : x.scale ≠ -1074) : 2 ^ 52 ≤ x.significand := by
  simp only [scale, significand, Nat.pow_eq] at *
  split <;> omega

theorem le_scale (x : Binary64) : -1074 ≤ x.scale := by
  simp only [scale]
  omega

/-- A float is made of its parts. -/
theorem ofParts_eq (x : Binary64) :
    ofParts x.negative (x.exponentField * 2 ^ 52 + x.fraction) = x := by
  have bits_eq : UInt64.ofNat (x.exponentField * 2 ^ 52 + x.fraction +
      if x.negative then Nat.pow 2 63 else 0) = x.bits := by
    rw [Nat.pow_eq, ← toNat_bits, UInt64.ofNat_toNat]
  rw [ofParts, bits_eq]

/-- A finite float is the fraction of its numerator and its denominator. -/
theorem numerator_div_denominator (x : Binary64) :
    (x.numerator : ℚ) / x.denominator = x.significand * 2 ^ x.scale := by
  rw [numerator, denominator]
  obtain ⟨k, scale_eq | scale_eq⟩ := x.scale.eq_nat_or_neg <;> rw [scale_eq]
  · simp
  · simp [div_eq_mul_inv]

theorem denominator_pos (x : Binary64) : 0 < x.denominator :=
  Nat.pow_pos Nat.two_pos

/-- A float that is not zero has its own scale. -/
theorem fittingScale_self {x : Binary64} (significand_pos : 0 < x.significand) :
    fittingScale x.numerator x.denominator = x.scale := by
  have power_pos (n : Int) : (0 : ℚ) < 2 ^ n := zpow_pos two_pos n
  have value_pos : (0 : ℚ) < x.significand * 2 ^ x.scale :=
    mul_pos (Nat.cast_pos.mpr significand_pos) (power_pos _)
  have log_lt : Int.log 2 ((x.significand : ℚ) * 2 ^ x.scale) < 53 + x.scale := by
    rw [← Int.lt_zpow_iff_log_lt Nat.one_lt_two value_pos, Nat.cast_two,
      zpow_add₀ two_ne_zero]
    refine mul_lt_mul_of_pos_right ?_ (power_pos _)
    exact_mod_cast x.significand_lt
  have numerator_pos : 0 < x.numerator := Nat.mul_pos significand_pos (Nat.pow_pos Nat.two_pos)
  rw [fittingScale_eq numerator_pos x.denominator_pos, numerator_div_denominator]
  by_cases least : x.scale = -1074
  · omega
  · have le_log : 52 + x.scale ≤ Int.log 2 ((x.significand : ℚ) * 2 ^ x.scale) := by
      rw [← Int.zpow_le_iff_le_log Nat.one_lt_two value_pos, Nat.cast_two, zpow_add₀ two_ne_zero]
      refine mul_le_mul_of_nonneg_right ?_ (power_pos _).le
      exact_mod_cast le_significand least
    have le_scale := x.le_scale
    omega

/-- A finite float is its own rounding. -/
theorem ofRatio_self {x : Binary64} (finite : x.isFinite = true) :
    ofRatio x.negative x.numerator x.denominator = x := by
  have magnitude_le : (x.scale + 1074).toNat * Nat.pow 2 52 + x.significand ≤ infinityBits := by
    have field_lt := exponentField_lt finite
    have fraction_lt := x.fraction_lt
    rw [magnitude_eq, infinityBits, Nat.pow_eq]
    omega
  rcases Nat.eq_zero_or_pos x.significand with zero | significand_pos
  -- Zero has no logarithm, so its scale is the least one by convention.
  · have scale_eq : x.scale = -1074 := by
      by_contra ne
      have le := le_significand ne
      omega
    have magnitude_zero := x.magnitude_eq
    rw [zero, scale_eq] at magnitude_zero
    rw [ofRatio, if_pos (by rw [numerator, zero, Nat.zero_mul])]
    nth_rewrite 2 [← ofParts_eq x]
    rw [← magnitude_zero]
    rfl
  · have numerator_ne : x.numerator ≠ 0 :=
      (Nat.mul_pos significand_pos (Nat.pow_pos Nat.two_pos)).ne'
    have unscale_eq : unscale x.numerator x.denominator x.scale =
        (x.significand * (Nat.pow 2 x.scale.toNat * Nat.pow 2 (-x.scale).toNat),
          Nat.pow 2 x.scale.toNat * Nat.pow 2 (-x.scale).toNat) := by
      rw [unscale, numerator, denominator, Nat.mul_assoc, Nat.mul_comm (Nat.pow 2 (-x.scale).toNat)]
    have scaled_pos : 0 < Nat.pow 2 x.scale.toNat * Nat.pow 2 (-x.scale).toNat :=
      Nat.mul_pos (Nat.pow_pos Nat.two_pos) (Nat.pow_pos Nat.two_pos)
    simp only [ofRatio, if_neg numerator_ne, fittingScale_self significand_pos, unscale_eq]
    rw [roundHalfEven_exact scaled_pos, Nat.min_eq_right magnitude_le, magnitude_eq, ofParts_eq]

/-- A fraction of the value of a finite float is rounded to it. -/
theorem ofRatio_eq {x : Binary64} (finite : x.isFinite = true) {num den : Nat}
    (den_pos : 0 < den) (same : num * x.denominator = x.numerator * den) :
    ofRatio x.negative num den = x := by
  rw [ofRatio_congr den_pos x.denominator_pos same, ofRatio_self finite]

end AuditTrail.Binary64
