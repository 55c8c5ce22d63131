import RecordQuery.Proofs.Number.Digits
import RecordQuery.Proofs.Number.Rounding

/-! The decimal that a double is written as reads back as the double. Each grid is tried with the
reader's own rounding, and where no grid has a hit, the exact value is written. Whatever rounds to a
magnitude lies between the powers of ten beyond which the reader does not round.
-/

namespace RecordQuery.Decimal

theorem lowerPower_pos (exponent : Int) : 0 < lowerPower exponent :=
  Nat.pow_pos (by decide)

/-- Of a power of ten, only one side of the line is more than one. -/
theorem upperPower_mul_pow (exponent : Int) (count : Nat)
    : upperPower exponent * lowerPower (exponent - count)
      = 10 ^ count * upperPower (exponent - count) * lowerPower exponent := by
  unfold upperPower lowerPower
  simp only [Nat.pow_eq, ← Nat.pow_add]
  congr 1
  omega

/-- Zeros behind the digits, taken back by the exponent, do not change what they round to. -/
theorem nearestUnits_zeros (digits : Nat) (exponent : Int) (count : Nat)
    : nearestUnits (digits * 10 ^ count) (exponent - count) = nearestUnits digits exponent := by
  refine (Binary64.nearestUnits_congr (lowerPower_pos _) (lowerPower_pos _) ?_).symm
  have same := upperPower_mul_pow exponent count
  -- the numbers have hundreds of digits, and only their products matter
  generalize upperPower exponent = above at same ⊢
  generalize upperPower (exponent - count) = above' at same ⊢
  generalize lowerPower exponent = below at same ⊢
  generalize lowerPower (exponent - count) = below' at same ⊢
  generalize Binary64.one = unit
  calc
    digits * above * unit * below' = digits * unit * (above * below') := by ac_rfl
    _ = digits * unit * (10 ^ count * above' * below) := by rw [same]
    _ = digits * 10 ^ count * above' * unit * below := by ac_rfl

theorem nearestUnits_zero (exponent : Int) : nearestUnits 0 exponent = 0 := by
  rw [nearestUnits, Nat.zero_mul, Nat.zero_mul]
  exact Binary64.nearestUnits_eq_zero (lowerPower_pos exponent)

-----------------------------------------------------------------------------------------
-- Beyond its bounds the reader need not round
-----------------------------------------------------------------------------------------

/-- Two of the units in one are few against 10^331. -/
theorem twice_one_le : ∃ power, power ≤ 331 ∧ 2 * Binary64.one ≤ Nat.pow 10 power :=
  ⟨331, Nat.le_refl _, by decide +kernel⟩

/-- The units in 10^310 are beyond the limit. -/
theorem limit_le : ∃ power, power ≤ 310 ∧ Binary64.limit ≤ Nat.pow 10 power * Binary64.one :=
  ⟨310, Nat.le_refl _, by decide +kernel⟩

/-- Digits below 10^-330 round to zero. -/
theorem nearestUnits_of_order_lt {d : Decimal} (h : d.order < -330)
    : nearestUnits d.digits d.exponent = 0 := by
  have digits := Text.lt_pow_length_digitsOf d.digits
  unfold order at h
  generalize (Text.digitsOf d.digits).length = count at h digits
  refine Binary64.nearestUnits_eq_zero ?_
  have upper : upperPower d.exponent = 1 := by
    rw [upperPower, show d.exponent.toNat = 0 by omega, Nat.pow_eq, Nat.pow_zero]
  obtain ⟨power, least, small⟩ := twice_one_le
  have pos : 0 < Binary64.one := twoPow_pos 1074
  rw [upper, Nat.mul_one, lowerPower, Nat.pow_eq]
  rw [Nat.pow_eq] at small
  generalize Binary64.one = unit at small pos ⊢
  calc
    2 * (d.digits * unit) = d.digits * (2 * unit) := by ac_rfl
    _ < 10 ^ count * (2 * unit) := Nat.mul_lt_mul_of_pos_right digits (by omega)
    _ ≤ 10 ^ count * 10 ^ power := Nat.mul_le_mul_left _ small
    _ = 10 ^ (count + power) := (Nat.pow_add ..).symm
    _ ≤ 10 ^ (-d.exponent).toNat := Nat.pow_le_pow_right (by decide) (by omega)

/-- Digits from 10^310 up are beyond every magnitude. -/
theorem limit_le_of_lt_order {d : Decimal} (nonzero : d.digits ≠ 0) (h : 310 < d.order)
    : Binary64.limit ≤ nearestUnits d.digits d.exponent := by
  have digits := Text.pow_length_digitsOf_le nonzero
  have pos := Text.length_digitsOf_pos d.digits
  unfold order at h
  generalize (Text.digitsOf d.digits).length = count at h digits pos
  obtain ⟨power, least, large⟩ := limit_le
  refine Binary64.twoPow_le_nearestUnits ?_
  rw [Nat.le_div_iff_mul_le (lowerPower_pos _), upperPower, lowerPower, Nat.pow_eq, Nat.pow_eq,
    ← Binary64.limit]
  rw [Nat.pow_eq] at large
  generalize Binary64.one = unit at large ⊢
  generalize Binary64.limit = bound at large ⊢
  calc
    bound * 10 ^ (-d.exponent).toNat
        ≤ 10 ^ power * unit * 10 ^ (-d.exponent).toNat := Nat.mul_le_mul_right _ large
    _ = 10 ^ (power + (-d.exponent).toNat) * unit := by rw [Nat.pow_add, Nat.mul_right_comm]
    _ ≤ 10 ^ (count - 1 + d.exponent.toNat) * unit :=
      Nat.mul_le_mul_right _ (Nat.pow_le_pow_right (by decide) (by omega))
    _ = 10 ^ (count - 1) * 10 ^ d.exponent.toNat * unit := by rw [Nat.pow_add]
    _ ≤ d.digits * 10 ^ d.exponent.toNat * unit :=
      Nat.mul_le_mul_right _ (Nat.mul_le_mul_right _ digits)

/-- A decimal is read as the double of its sign whose magnitude it rounds to. -/
theorem toBinary64?_eq_some {d : Decimal} {x : Binary64} (sign : d.negative = x.negative)
    (rounds : nearestUnits d.digits d.exponent = x.units)
    : d.toBinary64? = some x := by
  have below := Binary64.lt_limit_of_isMagnitude x.isMagnitude
  unfold toBinary64?
  split
  · next tiny =>
      have zero : x.units = 0 := by
        rw [← rounds]
        rcases tiny with none | small
        · rw [none, nearestUnits_zero]
        · exact nearestUnits_of_order_lt small
      have rounded : Binary64.nearestUnits 0 1 = 0 := Binary64.nearestUnits_eq_zero (by decide)
      have fits : Binary64.nearestUnits 0 1 < Binary64.limit := by rw [rounded]; exact zero ▸ below
      rw [Binary64.ofQuotient?, dif_pos fits, sign]
      obtain ⟨negative, units, isMagnitude⟩ := x
      simp only [rounded, Option.some.injEq, Binary64.mk.injEq, true_and]
      exact zero.symm
  · next some =>
      rw [not_or] at some
      split
      · next huge =>
          have beyond := limit_le_of_lt_order some.1 huge
          omega
      · have fits : Binary64.nearestUnits (d.digits * upperPower d.exponent * Binary64.one)
            (lowerPower d.exponent) < Binary64.limit := by
          rw [← nearestUnits, rounds]
          exact below
        rw [Binary64.ofQuotient?, dif_pos fits, sign]
        obtain ⟨negative, units, isMagnitude⟩ := x
        simp only [Option.some.injEq, Binary64.mk.injEq, true_and]
        exact rounds

-----------------------------------------------------------------------------------------
-- What is written rounds back
-----------------------------------------------------------------------------------------

theorem nearestUnits_of_gridNeighbour? {units digits : Nat} {exponent : Int}
    (h : gridNeighbour? units exponent = some digits)
    : nearestUnits digits exponent = units := by
  rw [gridNeighbour?] at h
  have hit := List.find?_some h
  rwa [beq_iff_eq] at hit

/-- The exact value of a magnitude reads back as it. -/
theorem nearestUnits_exact {units : Nat} (h : Binary64.IsMagnitude units)
    : nearestUnits (units * Nat.pow 5 1074) (-1074) = units := by
  refine Eq.trans ?_ (Binary64.nearestUnits_of_isMagnitude h)
  refine Binary64.nearestUnits_congr (lowerPower_pos _) (by decide) ?_
  have upper : upperPower (-1074) = 1 := by decide
  have scaled : Nat.pow 5 1074 * Binary64.one = lowerPower (-1074) := by decide +kernel
  generalize Nat.pow 5 1074 = power at scaled ⊢
  generalize Binary64.one = unit at scaled ⊢
  rw [← scaled, upper, Nat.mul_one, Nat.mul_one, Nat.mul_assoc]

/-- The decimal of the first grid with a hit reads back as the magnitude. -/
theorem nearestUnits_of_shortest? {negative : Bool} {units : Nat} {exponent : Int} {d : Decimal}
    (h : shortest? negative units exponent = some d)
    : d.negative = negative ∧ nearestUnits d.digits d.exponent = units := by
  obtain ⟨step, _, found⟩ := List.exists_of_findSome?_eq_some h
  obtain ⟨digits, hit, rfl⟩ := Option.map_eq_some_iff.mp found
  exact ⟨rfl, nearestUnits_of_gridNeighbour? hit⟩

/-- The decimal that a double is written as has its sign and rounds to its magnitude. -/
theorem nearestUnits_ofBinary64 (x : Binary64)
    : (ofBinary64 x).negative = x.negative
      ∧ nearestUnits (ofBinary64 x).digits (ofBinary64 x).exponent = x.units := by
  unfold ofBinary64
  split
  · next zero =>
      rw [zero]
      exact ⟨rfl, nearestUnits_zero 0⟩
  · cases found : shortest? x.negative x.units (leadingExponent x.units) with
    | none => exact ⟨rfl, nearestUnits_exact x.isMagnitude⟩
    | some d => exact nearestUnits_of_shortest? found

end RecordQuery.Decimal
