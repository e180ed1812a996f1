import AuditTrail.Proofs.Decimal.Rounding

/-!
# The shortest decimal reads back

The search for the shortest decimal of a float stops only where the decimal that is found is rounded
to the float, and falls back on the decimal that is the float.  So the decimal reads back whatever
grid the search begins with and however many grids it looks at.
-/

namespace AuditTrail.Binary64

variable {x : Binary64}

/-! ## Decimals as fractions -/

theorem ofDecimal_of_nonneg {exponent : Int} (nonneg : 0 ≤ exponent) (le : exponent ≤ 400)
    (negative : Bool) (coefficient : Nat) :
    ofDecimal negative coefficient exponent =
      ofRatio negative (coefficient * 10 ^ exponent.toNat) 1 := by
  rw [ofDecimal, if_neg (fun h ↦ absurd h.2 (Int.not_lt.mpr le)), if_neg (by omega), if_pos nonneg,
    Nat.pow_eq]

theorem ofDecimal_of_neg {exponent : Int} (neg : exponent < 0) (ge : -1200 ≤ exponent)
    (negative : Bool) (coefficient : Nat) :
    ofDecimal negative coefficient exponent =
      ofRatio negative coefficient (10 ^ (-exponent).toNat) := by
  rw [ofDecimal, if_neg (fun h ↦ absurd h.2 (by omega)), if_neg (by omega), if_neg (by omega),
    Nat.pow_eq]

theorem ofRatio_zero (negative : Bool) (den : Nat) :
    ofRatio negative 0 den = ofParts negative 0 :=
  if_pos rfl

theorem ofDecimal_zero (negative : Bool) (exponent : Int) :
    ofDecimal negative 0 exponent = ofParts negative 0 := by
  rw [ofDecimal, if_neg (fun h ↦ h.1 rfl), Nat.zero_mul]
  split
  · rfl
  · split <;> exact ofRatio_zero negative _

/-- A decimal with a zero behind the point is the decimal without it. -/
theorem ofDecimal_shift {exponent : Nat} (le : exponent ≤ 400) (negative : Bool)
    (coefficient : Nat) :
    ofDecimal negative (coefficient * 10 ^ exponent * 10) (-1) =
      ofDecimal negative coefficient exponent := by
  rw [ofDecimal_of_nonneg (Int.natCast_nonneg _) (by exact_mod_cast le),
    ofDecimal_of_neg (by decide) (by decide)]
  exact ofRatio_mul Nat.one_pos (by decide) negative

/-! ## The search -/

/-- The decimal that is the float reads back. -/
theorem ofDecimal_exactDecimal (finite : x.isFinite = true) :
    ofDecimal x.negative x.exactDecimal.coefficient x.exactDecimal.exponent = x := by
  have ge := x.le_scale
  rw [exactDecimal]
  split
  next nonneg =>
    rw [ofDecimal_of_nonneg le_rfl (by decide)]
    refine ofRatio_eq finite Nat.one_pos ?_
    have scale_eq : (-x.scale).toNat = 0 := by omega
    simp [denominator, scale_eq]
  next neg =>
    rw [ofDecimal_of_neg (not_le.mp neg) (by omega)]
    refine ofRatio_eq finite (Nat.pow_pos (by decide)) ?_
    have scale_eq : x.scale.toNat = 0 := by omega
    simp only [denominator, numerator, scale_eq, Nat.pow_eq, Nat.pow_zero, Nat.mul_one,
      Nat.mul_assoc, ← Nat.mul_pow]

/-- The search finds a decimal that reads back. -/
theorem ofDecimal_searchGrid (finite : x.isFinite = true) (steps : Nat) (p : Int) :
    ofDecimal x.negative (x.searchGrid steps p).coefficient (x.searchGrid steps p).exponent =
      x := by
  induction steps generalizing p with
  | zero => exact ofDecimal_exactDecimal finite
  | succ steps ih =>
    rw [searchGrid]
    split
    next below => exact below.1
    next =>
      split
      next above => exact above
      next => exact ih (p - 1)

/-- **The shortest decimal reads back.** -/
theorem ofDecimal_shortest (finite : x.isFinite = true) :
    ofDecimal x.negative x.shortest.coefficient x.shortest.exponent = x := by
  rw [shortest]
  split
  next zero =>
    rw [ofDecimal_of_nonneg le_rfl (by decide)]
    refine ofRatio_eq finite Nat.one_pos ?_
    rw [numerator, zero]
    simp only [Nat.zero_mul]
  next => exact ofDecimal_searchGrid finite _ _

/-- A shortest decimal is zero only as the plain zero. -/
theorem shortest_eq_zero (finite : x.isFinite = true) (zero : x.shortest.coefficient = 0) :
    x.shortest = ⟨0, 0⟩ := by
  have x_eq := ofDecimal_shortest finite
  rw [zero, ofDecimal_zero] at x_eq
  have significand_eq : x.significand = 0 := by
    rw [← x_eq]
    cases x.negative <;> decide
  rw [shortest, if_pos significand_eq]

end AuditTrail.Binary64
