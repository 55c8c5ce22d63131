import RecordQuery.Number.Decimal

/-! Rounding to the nearest magnitude: it depends on the value of a quotient and not on how it is
written, keeps what is a magnitude already, takes what is below half a unit to zero, and does not
fall below a power of two that the quotient has reached.
-/

namespace RecordQuery.Binary64

/-- Rounding a quotient does not change if both of its sides are multiplied. -/
theorem roundQuotient_mul_right (numerator denominator : Nat) {factor : Nat} (h : 0 < factor)
    : roundQuotient (numerator * factor) (denominator * factor)
      = roundQuotient numerator denominator := by
  have twice : 2 * (numerator % denominator * factor) = 2 * (numerator % denominator) * factor :=
    (Nat.mul_assoc ..).symm
  unfold roundQuotient
  simp only [Nat.mul_div_mul_right _ _ h, Nat.mul_mod_mul_right, twice, gt_iff_lt,
    Nat.mul_lt_mul_right h, Bool.or_eq_true, decide_eq_true_eq, Bool.and_eq_true, beq_iff_eq,
    Nat.mul_right_cancel_iff h]

theorem nearestUnits_mul_right (numerator denominator : Nat) {factor : Nat} (h : 0 < factor)
    : nearestUnits (numerator * factor) (denominator * factor)
      = nearestUnits numerator denominator := by
  unfold nearestUnits
  simp only [Nat.mul_div_mul_right _ _ h, Nat.mul_right_comm denominator factor]
  rw [roundQuotient_mul_right _ _ h]

/-- The nearest magnitude depends on the value of a quotient only. -/
theorem nearestUnits_congr {n n' d d' : Nat} (pos : 0 < d) (pos' : 0 < d')
    (same : n * d' = n' * d)
    : nearestUnits n d = nearestUnits n' d' := by
  rw [← nearestUnits_mul_right n d pos', ← nearestUnits_mul_right n' d' pos, same,
    Nat.mul_comm d d']

theorem roundQuotient_mul_left (n : Nat) {d : Nat} (pos : 0 < d) : roundQuotient (n * d) d = n := by
  unfold roundQuotient
  simp [Nat.mul_div_cancel n pos, Nat.mul_mod_left, Nat.ne_of_lt pos]

/-- The excess bits of a magnitude are zeros. -/
theorem twoPow_excessBits_dvd {units : Nat} (h : IsMagnitude units)
    : twoPow (excessBits units) ∣ units := by
  obtain ⟨significand, shift, small, _, rfl⟩ := h
  by_cases zero : significand * twoPow shift = 0
  · rw [zero]
    exact Nat.dvd_zero _
  · have below : significand * twoPow shift < twoPow (53 + shift) := by
      rw [twoPow_add]
      exact Nat.mul_lt_mul_of_pos_right small (twoPow_pos shift)
    have bits : (significand * twoPow shift).log2 < 53 + shift :=
      lt_of_twoPow_lt_twoPow (Nat.lt_of_le_of_lt (twoPow_log2_le zero) below)
    have split : shift = excessBits (significand * twoPow shift)
        + (shift - excessBits (significand * twoPow shift)) := by
      unfold excessBits
      omega
    refine Nat.dvd_mul_left_of_dvd ?_ significand
    conv => rhs; rw [split, twoPow_add]
    exact Nat.dvd_mul_right ..

/-- A magnitude is its own nearest one. -/
theorem nearestUnits_of_isMagnitude {units : Nat} (h : IsMagnitude units)
    : nearestUnits units 1 = units := by
  obtain ⟨leading, split⟩ := twoPow_excessBits_dvd h
  have pos := twoPow_pos (excessBits units)
  unfold nearestUnits
  dsimp only
  rw [Nat.div_one, Nat.one_mul]
  generalize twoPow (excessBits units) = step at split pos
  rw [split, Nat.mul_comm step leading, roundQuotient_mul_left leading pos]

/-- What is less than half a unit is nearest to zero. -/
theorem nearestUnits_eq_zero {n d : Nat} (h : 2 * n < d) : nearestUnits n d = 0 := by
  have whole : n / d = 0 := Nat.div_eq_of_lt (by omega)
  have rest : n % d = n := Nat.mod_eq_of_lt (by omega)
  have noExcess : excessBits 0 = 0 := by decide
  have below : ¬ 2 * n > d := by omega
  unfold nearestUnits
  simp [whole, noExcess, roundQuotient, rest, below]

/-- Rounding keeps a power of two that a quotient reaches. -/
theorem twoPow_le_nearestUnits {n d k : Nat} (h : twoPow k ≤ n / d)
    : twoPow k ≤ nearestUnits n d := by
  have nonzero : n / d ≠ 0 := Nat.ne_of_gt (Nat.lt_of_lt_of_le (twoPow_pos k) h)
  have bits : k ≤ (n / d).log2 := by
    refine Nat.le_of_lt_add_one (lt_of_twoPow_lt_twoPow ?_)
    exact Nat.lt_of_le_of_lt h (lt_twoPow_log2 (n / d))
  refine Nat.le_trans (twoPow_le_twoPow bits) ?_
  -- the leading bit stands above the excess bits that are rounded away
  have excess : excessBits (n / d) ≤ (n / d).log2 := Nat.sub_le ..
  unfold nearestUnits
  dsimp only
  rw [← Nat.sub_add_cancel excess, twoPow_add]
  refine Nat.mul_le_mul_right _ (Nat.le_trans ?_ (le_roundQuotient ..))
  rw [← Nat.div_div_eq_div_mul, Nat.le_div_iff_mul_le (twoPow_pos _), ← twoPow_add,
    Nat.sub_add_cancel excess]
  exact twoPow_log2_le nonzero

theorem lt_limit_of_isMagnitude {units : Nat} (h : IsMagnitude units) : units < limit := by
  obtain ⟨significand, shift, small, bound, rfl⟩ := h
  refine Nat.lt_of_lt_of_le (Nat.mul_lt_mul_of_pos_right small (twoPow_pos shift)) ?_
  rw [← twoPow_add]
  exact twoPow_le_twoPow (by omega)

end RecordQuery.Binary64
