import RecordQuery.Number.TwoPow

/-! Finite double-precision numbers, held exactly. A magnitude is a count of units of 2^-1074, the
least positive double, so comparing, rounding down and testing for a whole number are arithmetic on
integers. Rounding to the nearest double is one function on quotients; a tie goes to the even
significand.
-/

namespace RecordQuery

/-- The units in one: a double counts units of 2^-1074. -/
def Binary64.one : Nat := twoPow 1074

/-- No magnitude reaches this many units: it would be 2^1024. -/
def Binary64.limit : Nat := twoPow 2098

/-- A count of units that some double has: a significand below 2^53 shifted left by at most 2045. -/
def Binary64.IsMagnitude (units : Nat) : Prop :=
  ∃ significand shift,
    significand < twoPow 53 ∧ shift ≤ 2045 ∧ units = significand * twoPow shift

/-- A finite double: a sign, which zero has too, and a magnitude in units of 2^-1074. -/
structure Binary64 where
  negative : Bool
  units : Nat
  isMagnitude : Binary64.IsMagnitude units
  deriving DecidableEq

namespace Binary64

/-- How many low bits of a magnitude of this size lie below its 53 leading ones. -/
def excessBits (units : Nat) : Nat :=
  units.log2 - 52

/-- The nearest whole number to a quotient; a tie goes to the even one. -/
def roundQuotient (numerator denominator : Nat) : Nat :=
  let whole := numerator / denominator
  let twiceRest := 2 * (numerator % denominator)
  if twiceRest > denominator || (twiceRest == denominator && whole % 2 == 1) then whole + 1
  else whole

/-- The nearest magnitude to a quotient of units, with no largest one: the quotient keeps 53
leading bits.
-/
def nearestUnits (numerator denominator : Nat) : Nat :=
  let shift := excessBits (numerator / denominator)
  roundQuotient numerator (denominator * twoPow shift) * twoPow shift

theorem roundQuotient_le (numerator denominator : Nat)
    : roundQuotient numerator denominator ≤ numerator / denominator + 1 := by
  unfold roundQuotient
  dsimp only
  split <;> omega

theorem le_roundQuotient (numerator denominator : Nat)
    : numerator / denominator ≤ roundQuotient numerator denominator := by
  unfold roundQuotient
  dsimp only
  split <;> omega

/-- Dividing out the excess bits leaves fewer than 54 bits. -/
theorem div_excess_lt (units : Nat) : units / twoPow (excessBits units) < twoPow 53 := by
  apply Nat.div_lt_of_lt_mul
  rw [← twoPow_add]
  refine Nat.lt_of_lt_of_le (lt_twoPow_log2 units) (twoPow_le_twoPow ?_)
  unfold excessBits
  omega

theorem isMagnitude_nearestUnits {numerator denominator : Nat}
    (h : nearestUnits numerator denominator < limit)
    : IsMagnitude (nearestUnits numerator denominator) := by
  dsimp only [nearestUnits] at h ⊢
  generalize hshift : excessBits (numerator / denominator) = shift at h ⊢
  have hdiv : numerator / (denominator * twoPow shift) = numerator / denominator / twoPow shift :=
    (Nat.div_div_eq_div_mul ..).symm
  have hupper := roundQuotient_le numerator (denominator * twoPow shift)
  have hlower := le_roundQuotient numerator (denominator * twoPow shift)
  have hlt := div_excess_lt (numerator / denominator)
  rw [hshift] at hlt
  rw [hdiv] at hupper hlower
  generalize roundQuotient numerator (denominator * twoPow shift) = rounded at h hupper hlower ⊢
  by_cases hfull : rounded = twoPow 53
  · refine ⟨twoPow 52, shift + 1, by decide, ?_, ?_⟩
    · have hlimit : 53 + shift < 2098 := by
        apply lt_of_twoPow_lt_twoPow
        rw [twoPow_add, ← hfull]
        exact h
      omega
    · rw [hfull, ← twoPow_add, ← twoPow_add]
      congr 1
      omega
  · refine ⟨rounded, shift, by omega, ?_, rfl⟩
    by_cases hzero : shift = 0
    · omega
    · have hne : numerator / denominator ≠ 0 := by
        intro h0
        simp [excessBits, h0] at hshift
        omega
      have hlead : twoPow 52 ≤ numerator / denominator / twoPow shift := by
        rw [Nat.le_div_iff_mul_le (twoPow_pos shift), ← twoPow_add]
        refine Nat.le_trans (twoPow_le_twoPow ?_) (twoPow_log2_le hne)
        unfold excessBits at hshift
        omega
      have hlimit : 52 + shift < 2098 := by
        refine lt_of_twoPow_lt_twoPow (Nat.lt_of_le_of_lt ?_ h)
        rw [twoPow_add]
        exact Nat.mul_le_mul_right _ (Nat.le_trans hlead hlower)
      omega

/-- Rounding at most doubles a quotient, up to a unit. -/
theorem nearestUnits_le (numerator denominator : Nat)
    : nearestUnits numerator denominator ≤ 2 * (numerator / denominator) + 1 := by
  dsimp only [nearestUnits]
  generalize hshift : excessBits (numerator / denominator) = shift
  have hdiv : numerator / (denominator * twoPow shift) = numerator / denominator / twoPow shift :=
    (Nat.div_div_eq_div_mul ..).symm
  have hupper := roundQuotient_le numerator (denominator * twoPow shift)
  rw [hdiv] at hupper
  refine Nat.le_trans (Nat.mul_le_mul_right _ hupper) ?_
  rw [Nat.add_mul, Nat.one_mul]
  have hfloor := Nat.div_mul_le_self (numerator / denominator) (twoPow shift)
  by_cases hne : numerator / denominator = 0
  · have : shift = 0 := by rw [← hshift, hne]; rfl
    subst this
    rw [twoPow_zero] at hfloor ⊢
    omega
  · have hpow : twoPow shift ≤ numerator / denominator := by
      refine Nat.le_trans (twoPow_le_twoPow ?_) (twoPow_log2_le hne)
      unfold excessBits at hshift
      omega
    omega

/-- The nearest double to a quotient of units, none when that is beyond the largest double. -/
def ofQuotient? (negative : Bool) (numerator denominator : Nat) : Option Binary64 :=
  if h : nearestUnits numerator denominator < limit then
    some ⟨negative, nearestUnits numerator denominator, isMagnitude_nearestUnits h⟩
  else none

theorem double_add_one_lt_limit {n : Nat} (h : n ≤ twoPow 64 * one) : 2 * n + 1 < limit := by
  rw [one, ← twoPow_add] at h
  have hpos := twoPow_pos (64 + 1074)
  have hlimit : twoPow (64 + 1074 + 2) ≤ limit := twoPow_le_twoPow (by decide)
  rw [twoPow_add _ 2] at hlimit
  generalize twoPow (64 + 1074) = bound at h hpos hlimit
  have hfour : twoPow 2 = 4 := rfl
  rw [hfour] at hlimit
  omega

/-- The nearest double to an integer of at most 64 bits. -/
def ofInt (n : Int) (h : n.natAbs ≤ twoPow 64) : Binary64 :=
  ⟨decide (n < 0), nearestUnits (n.natAbs * one) 1, isMagnitude_nearestUnits (by
    refine Nat.lt_of_le_of_lt (nearestUnits_le _ 1) (double_add_one_lt_limit ?_)
    rw [Nat.div_one]
    exact Nat.mul_le_mul_right one h)⟩

/-- The value in units, with its sign; both zeros count none. -/
def signedUnits (x : Binary64) : Int :=
  if x.negative then -(x.units : Int) else x.units

/-- The order of the values; the two zeros are equal. -/
def compare (x y : Binary64) : Ordering :=
  Ord.compare x.signedUnits y.signedUnits

/-- The greatest integer that is not above the value. -/
def floor (x : Binary64) : Int :=
  Int.fdiv x.signedUnits one

/-- The least integer that is not below the value. -/
def ceiling (x : Binary64) : Int :=
  -Int.fdiv (-x.signedUnits) one

/-- The integer nearest to the value, the greater one of two at the same distance. -/
def round (x : Binary64) : Int :=
  Int.fdiv (2 * x.signedUnits + one) (2 * one)

/-- The value without its fraction. -/
def truncate (x : Binary64) : Int :=
  Int.tdiv x.signedUnits one

/-- A value without a fraction. -/
def isWhole (x : Binary64) : Bool :=
  x.units % one == 0

/-- A double with a fraction is below 2^52. -/
theorem units_lt_of_not_isWhole {x : Binary64} (h : x.isWhole = false)
    : x.units < twoPow 52 * one := by
  obtain ⟨significand, shift, hs, _, hunits⟩ := x.isMagnitude
  have hshift : shift < 1074 := by
    refine Nat.lt_of_not_le (fun hle => ?_)
    have hmod : x.units % one = 0 := by
      have hsplit : twoPow shift = twoPow (shift - 1074) * one := by
        rw [one, ← twoPow_add]
        congr 1
        omega
      rw [hunits, hsplit, ← Nat.mul_assoc, Nat.mul_mod_left]
    simp [isWhole, hmod] at h
  rw [hunits, one, ← twoPow_add]
  refine Nat.lt_of_lt_of_le (Nat.mul_lt_mul_of_pos_right hs (twoPow_pos shift)) ?_
  rw [← twoPow_add]
  exact twoPow_le_twoPow (by omega)

end Binary64

end RecordQuery
