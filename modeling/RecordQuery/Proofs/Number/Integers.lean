import RecordQuery.Proofs.Number.DecimalTexts
import RecordQuery.Proofs.Number.Order

/-! Integers among the doubles. The nearest double of an integer is whole, is the integer itself up
to 2^53, and is never on the other side of another integer. So functions to whole numbers keep an
integer below 2^53 and round a larger one, and an integer is less than the double of another one if
it is less than that one and has another double.
-/

namespace RecordQuery

namespace Binary64

variable {x : Binary64} {m n : Int}

theorem natAbs_signedUnits (x : Binary64) : x.signedUnits.natAbs = x.units := by
  unfold signedUnits
  split <;> omega

theorem natAbs_truncate (x : Binary64) : x.truncate.natAbs = x.units / one := by
  rw [truncate, Int.natAbs_tdiv, natAbs_signedUnits, Int.natAbs_natCast]
  rfl

/-- The nearest double of an integer from 2^k up is not below 2^k. -/
theorem twoPow_mul_one_le_units_ofInt {k : Nat} (fits : n.natAbs ≤ twoPow 64)
    (large : twoPow k ≤ n.natAbs)
    : twoPow k * one ≤ (ofInt n fits).units := by
  have reached : twoPow (k + 1074) ≤ n.natAbs * one / 1 := by
    rw [Nat.div_one, twoPow_add, ← one]
    exact Nat.mul_le_mul_right one large
  rw [one, ← twoPow_add]
  exact twoPow_le_nearestUnits reached

theorem units_ofInt_of_natAbs_le (fits : n.natAbs ≤ twoPow 64) (small : n.natAbs ≤ twoPow 53)
    : (ofInt n fits).units = n.natAbs * one := by
  rw [← natAbs_signedUnits, signedUnits_ofInt_of_natAbs_le fits small, Int.natAbs_mul,
    Int.natAbs_natCast]

/-- The nearest double of an integer is whole: it is the integer, or too large for a fraction. -/
theorem isWhole_ofInt (fits : n.natAbs ≤ twoPow 64) : (ofInt n fits).isWhole = true := by
  rcases Nat.le_total n.natAbs (twoPow 53) with small | large
  · simp [isWhole, units_ofInt_of_natAbs_le fits small]
  · have below : twoPow 52 * one ≤ twoPow 53 * one :=
      Nat.mul_le_mul_right one (twoPow_le_twoPow (by decide))
    have bound := Nat.le_trans below (twoPow_mul_one_le_units_ofInt fits large)
    cases fraction : (ofInt n fits).isWhole with
    | true => rfl
    | false => exact absurd (units_lt_of_not_isWhole fraction) (Nat.not_lt.mpr bound)

theorem truncate_ofInt (fits : n.natAbs ≤ twoPow 64) (small : n.natAbs ≤ twoPow 53)
    : (ofInt n fits).truncate = n := by
  rw [truncate, signedUnits_ofInt_of_natAbs_le fits small]
  exact Int.mul_tdiv_cancel n (Int.ne_of_gt one_pos)

theorem twoPow_le_natAbs_truncate_ofInt {k : Nat} (fits : n.natAbs ≤ twoPow 64)
    (large : twoPow k ≤ n.natAbs)
    : twoPow k ≤ (ofInt n fits).truncate.natAbs := by
  have pos : 0 < one := twoPow_pos 1074
  rw [natAbs_truncate, Nat.le_div_iff_mul_le pos]
  exact twoPow_mul_one_le_units_ofInt fits large

/-- The nearest double of an integer has the sign of the integer. -/
theorem signedUnits_ofInt_neg_iff (fits : n.natAbs ≤ twoPow 64)
    : (ofInt n fits).signedUnits < 0 ↔ n < 0 := by
  constructor
  · intro negative
    refine Int.not_le.mp fun positive => ?_
    have zero : (ofInt 0 (by decide)).signedUnits = 0 :=
      (signedUnits_ofInt_of_natAbs_le (by decide) (by decide)).trans (Int.zero_mul _)
    have above := signedUnits_ofInt_mono (m := 0) (by decide) fits positive
    omega
  · intro negative
    have some : twoPow 0 * one ≤ (ofInt n fits).units :=
      twoPow_mul_one_le_units_ofInt fits (by rw [twoPow_zero]; omega)
    have pos := one_pos
    have sign : (ofInt n fits).negative = true := decide_eq_true negative
    rw [signedUnits, if_pos sign]
    rw [twoPow_zero, Nat.one_mul] at some
    omega

/-- Integers with the same nearest value have the same nearest double. -/
theorem ofInt_eq_ofInt_iff (fits : m.natAbs ≤ twoPow 64) (fits' : n.natAbs ≤ twoPow 64)
    : ofInt m fits = ofInt n fits'
      ↔ (ofInt m fits).signedUnits = (ofInt n fits').signedUnits := by
  refine ⟨congrArg signedUnits, fun same => ?_⟩
  have units : (ofInt m fits).units = (ofInt n fits').units := by
    rw [← natAbs_signedUnits, same, natAbs_signedUnits]
  have sign : (m < 0) = (n < 0) := by
    rw [← signedUnits_ofInt_neg_iff fits, same, signedUnits_ofInt_neg_iff fits']
  simp only [ofInt, Binary64.mk.injEq, sign, true_and]
  exact units

end Binary64

namespace Number

variable {m n : Int}

/-- A function to whole numbers keeps an integer below 2^53 and gives the nearest double of any
other one.
-/
theorem toWhole_int (nearby : Binary64 → Int) (inRange : InRange n)
    : toWhole nearby (.int n inRange)
      = if n.natAbs < twoPow 53 then .int n inRange
        else .double (.ofInt n (natAbs_le_of_inRange inRange)) := by
  have fits := natAbs_le_of_inRange inRange
  have whole : (int n inRange).toBinary64.isWhole = true := Binary64.isWhole_ofInt fits
  rw [toWhole, if_pos whole, ofWhole, toBinary64]
  by_cases small : n.natAbs < twoPow 53
  · have kept := Binary64.truncate_ofInt fits (Nat.le_of_lt small)
    simp [kept, small]
  · have large := Binary64.twoPow_le_natAbs_truncate_ofInt fits (Nat.le_of_not_lt small)
    rw [dif_neg (Nat.not_lt.mpr large), if_neg small]

/-- An integer is equal to the nearest double of another one if both have that double, and less if
it is less than the other one and has another double.
-/
theorem compare_double_ofInt (inRange : InRange m) (fits : n.natAbs ≤ twoPow 64)
    : let double := Binary64.ofInt m (natAbs_le_of_inRange inRange)
      ((int m inRange).compare (.double (.ofInt n fits)) = .eq ↔ double = .ofInt n fits)
      ∧ ((int m inRange).compare (.double (.ofInt n fits)) = .lt
        ↔ m < n ∧ double ≠ .ofInt n fits) := by
  have fits' := natAbs_le_of_inRange inRange
  simp only [compare, toBinary64, Binary64.compare, Int.compare_eq_eq, Int.compare_eq_lt, ne_eq,
    Binary64.ofInt_eq_ofInt_iff, true_and]
  constructor
  · intro less
    refine ⟨Int.not_le.mp fun above => ?_, Int.ne_of_lt less⟩
    have kept := Binary64.signedUnits_ofInt_mono fits fits' above
    omega
  · rintro ⟨less, apart⟩
    have kept := Binary64.signedUnits_ofInt_mono fits' fits (Int.le_of_lt less)
    omega

end Number

end RecordQuery
