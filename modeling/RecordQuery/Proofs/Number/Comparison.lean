import Mathlib.Algebra.Order.Field.Basic
import Mathlib.Algebra.Order.Field.Rat
import RecordQuery.Proofs.Number.Integers

/-! The order of numbers against the order of their exact values. Two numbers are compared as signed
words if both fit, as unsigned words if both do, and as doubles otherwise. Every route has a result,
and the routes are one order. It is the exact one where no integer has to be rounded to meet a
double; rounding may make numbers equal, but puts none on the other side of another.
-/

namespace RecordQuery

namespace Binary64

-----------------------------------------------------------------------------------------
-- Doubles of arithmetic
-----------------------------------------------------------------------------------------

/-- A double as arithmetic has them: it may be infinite or no number at all. -/
inductive Extended where
  | finite (value : Binary64)
  | infinite (negative : Bool)
  | nan

namespace Extended

/-- The nearest double to an integer, infinite where that is beyond the largest one. -/
def ofInt (n : Int) : Extended :=
  if h : nearestUnits (n.natAbs * one) 1 < limit then
    .finite ⟨decide (n < 0), nearestUnits (n.natAbs * one) 1, isMagnitude_nearestUnits h⟩
  else .infinite (decide (n < 0))

/-- The order of two doubles, none if one is no number. -/
def partialCompare : Extended → Extended → Option Ordering
  | .nan, _ | _, .nan => none
  | .finite x, .finite y => some (x.compare y)
  | .finite _, .infinite negative => some (if negative then .gt else .lt)
  | .infinite negative, .finite _ => some (if negative then .lt else .gt)
  | .infinite negative, .infinite negative' => some (Ord.compare negative' negative)

/-- No integer of 64 bits is beyond the largest double. -/
theorem ofInt_eq_finite {n : Int} (fits : n.natAbs ≤ twoPow 64)
    : ofInt n = .finite (Binary64.ofInt n fits) := by
  have small : nearestUnits (n.natAbs * one) 1 < limit :=
    lt_limit_of_isMagnitude (Binary64.ofInt n fits).isMagnitude
  exact dif_pos small

end Extended

-----------------------------------------------------------------------------------------
-- Rounding does not pass a double
-----------------------------------------------------------------------------------------

variable {n : Int} {x : Binary64}

theorem nearestUnits_le_units (x : Binary64) {units : Nat} (h : units ≤ x.units)
    : nearestUnits units 1 ≤ x.units := by
  calc
    nearestUnits units 1 ≤ nearestUnits x.units 1 := nearestUnits_mono 1 h
    _ = x.units := nearestUnits_of_isMagnitude x.isMagnitude

theorem units_le_nearestUnits (x : Binary64) {units : Nat} (h : x.units ≤ units)
    : x.units ≤ nearestUnits units 1 := by
  calc
    x.units = nearestUnits x.units 1 := (nearestUnits_of_isMagnitude x.isMagnitude).symm
    _ ≤ nearestUnits units 1 := nearestUnits_mono 1 h

theorem signedUnits_ofInt (fits : n.natAbs ≤ twoPow 64)
    : (ofInt n fits).signedUnits
      = if n * one < 0 then -(nearestUnits (n * one).natAbs 1 : Int)
        else nearestUnits (n * one).natAbs 1 := by
  have sign : n < 0 ↔ n * one < 0 := by
    rw [← Int.not_le, ← Int.not_le, Int.mul_nonneg_iff_of_pos_right one_pos]
  have magnitude : (n * one).natAbs = n.natAbs * one := by
    rw [Int.natAbs_mul, Int.natAbs_natCast]
  simp only [signedUnits, ofInt, decide_eq_true_eq, sign, magnitude]

/-- An integer that is not above a double has a nearest double that is not. -/
theorem signedUnits_ofInt_le (fits : n.natAbs ≤ twoPow 64) (h : n * one ≤ x.signedUnits)
    : (ofInt n fits).signedUnits ≤ x.signedUnits := by
  rw [signedUnits_ofInt]
  unfold signedUnits at *
  generalize n * one = exact at h
  by_cases sign : x.negative = true
  · rw [if_pos sign] at h ⊢
    split
    · have kept := units_le_nearestUnits x (show x.units ≤ exact.natAbs by omega)
      omega
    · have kept := nearestUnits_le_units x (show exact.natAbs ≤ x.units by omega)
      omega
  · rw [if_neg sign] at h ⊢
    split
    · omega
    · have kept := nearestUnits_le_units x (show exact.natAbs ≤ x.units by omega)
      omega

theorem le_signedUnits_ofInt (fits : n.natAbs ≤ twoPow 64) (h : x.signedUnits ≤ n * one)
    : x.signedUnits ≤ (ofInt n fits).signedUnits := by
  rw [signedUnits_ofInt]
  unfold signedUnits at *
  generalize n * one = exact at h
  by_cases sign : x.negative = true
  · rw [if_pos sign] at h ⊢
    split
    · have kept := nearestUnits_le_units x (show exact.natAbs ≤ x.units by omega)
      omega
    · omega
  · rw [if_neg sign] at h ⊢
    split
    · omega
    · have kept := units_le_nearestUnits x (show x.units ≤ exact.natAbs by omega)
      omega

/-- A negative integer has a negative double, and one that is not has not. -/
theorem signedUnits_ofInt_lt_of_neg {m : Int} (fits : m.natAbs ≤ twoPow 64)
    (fits' : n.natAbs ≤ twoPow 64) (negative : m < 0) (other : 0 ≤ n)
    : (ofInt m fits).signedUnits < (ofInt n fits').signedUnits := by
  have below := (signedUnits_ofInt_neg_iff fits).mpr negative
  have above := mt (signedUnits_ofInt_neg_iff fits').mp (Int.not_lt.mpr other)
  omega

end Binary64

namespace Number

-----------------------------------------------------------------------------------------
-- Three routes
-----------------------------------------------------------------------------------------

/-- The number as a signed 64-bit word, if it is an integer that fits. -/
def signed? : Number → Option Int
  | .int n _ => if n < twoPow 63 then some n else none
  | .double _ => none

/-- The number as an unsigned 64-bit word, if it is an integer that fits. -/
def unsigned? : Number → Option Nat
  | .int n _ => if 0 ≤ n then some n.toNat else none
  | .double _ => none

/-- The number as a double. -/
def double? : Number → Option Binary64.Extended
  | .int n _ => some (.ofInt n)
  | .double x => some (.finite x)

/-- The order of two numbers by the first route that takes both. -/
def routedCompare? (x y : Number) : Option Ordering :=
  match x.signed?, y.signed? with
  | some m, some n => some (Ord.compare m n)
  | _, _ =>
    match x.unsigned?, y.unsigned? with
    | some m, some n => some (Ord.compare m n)
    | _, _ => do (← x.double?).partialCompare (← y.double?)

variable {m n : Int} {x y : Number}

theorem double?_eq (x : Number) : x.double? = some (.finite x.toBinary64) := by
  cases x with
  | int n inRange =>
      exact congrArg some (Binary64.Extended.ofInt_eq_finite (natAbs_le_of_inRange inRange))
  | double x => rfl

theorem signed?_eq_none {inRange : InRange n} (large : ¬ n < twoPow 63)
    : (int n inRange).signed? = none :=
  if_neg large

theorem unsigned?_eq_none {inRange : InRange n} (negative : ¬ 0 ≤ n)
    : (int n inRange).unsigned? = none :=
  if_neg negative

/-- Numbers that neither route for words takes are compared as doubles. -/
theorem routedCompare?_of_unfit (signed : x.signed? = none ∨ y.signed? = none)
    (unsigned : x.unsigned? = none ∨ y.unsigned? = none)
    : routedCompare? x y = some (x.toBinary64.compare y.toBinary64) := by
  unfold routedCompare?
  split
  · next left right => simp [left, right] at signed
  · split
    · next left right => simp [left, right] at unsigned
    · rw [double?_eq, double?_eq]
      rfl

/-- Where two integers are compared as doubles, one is negative and the other is not. -/
theorem routedCompare?_int (left : InRange m) (right : InRange n)
    : routedCompare? (.int m left) (.int n right) = some (Ord.compare m n) := by
  have pos := twoPow_pos 63
  have fits := natAbs_le_of_inRange left
  have fits' := natAbs_le_of_inRange right
  by_cases signed : m < twoPow 63 ∧ n < twoPow 63
  · simp only [routedCompare?, signed?, if_pos signed.1, if_pos signed.2]
  · by_cases unsigned : 0 ≤ m ∧ 0 ≤ n
    · have cast : Ord.compare m.toNat n.toNat = Ord.compare m n := by
        conv_rhs => rw [← Int.toNat_of_nonneg unsigned.1, ← Int.toNat_of_nonneg unsigned.2]
        rw [← cmp_eq_compare, ← cmp_eq_compare]
        exact (Nat.strictMono_cast.cmp_map_eq m.toNat n.toNat).symm
      simp only [routedCompare?, signed?, unsigned?, if_pos unsigned.1, if_pos unsigned.2, cast]
      split
      · next both both' =>
          exact absurd ⟨(Option.ite_none_right_eq_some.mp both).1,
            (Option.ite_none_right_eq_some.mp both').1⟩ signed
      · rfl
    · rcases Int.lt_or_le m 0 with negative | other
      · have large : ¬ n < twoPow 63 := by omega
        rw [routedCompare?_of_unfit (.inr (signed?_eq_none large))
            (.inl (unsigned?_eq_none (by omega))),
          Int.compare_eq_lt.mpr (show m < n by omega)]
        exact congrArg some (Int.compare_eq_lt.mpr
          (Binary64.signedUnits_ofInt_lt_of_neg fits fits' negative (by omega)))
      · have large : ¬ m < twoPow 63 := by omega
        rw [routedCompare?_of_unfit (.inl (signed?_eq_none large))
            (.inr (unsigned?_eq_none (by omega))),
          Int.compare_eq_gt.mpr (show n < m by omega)]
        exact congrArg some (Int.compare_eq_gt.mpr
          (Binary64.signedUnits_ofInt_lt_of_neg fits' fits (by omega) other))

/-- The routes are one order. -/
theorem routedCompare?_eq (x y : Number) : routedCompare? x y = some (x.compare y) := by
  cases x with
  | double x => exact routedCompare?_of_unfit (.inl rfl) (.inl rfl)
  | int m left =>
      cases y with
      | double y => exact routedCompare?_of_unfit (.inr rfl) (.inr rfl)
      | int n right => exact routedCompare?_int left right

-----------------------------------------------------------------------------------------
-- Exact values
-----------------------------------------------------------------------------------------

/-- The exact value of a number. -/
def value : Number → ℚ
  | .int n _ => n
  | .double x => x.signedUnits / Binary64.one

/-- The exact value in units of doubles. -/
def units : Number → Int
  | .int n _ => n * Binary64.one
  | .double x => x.signedUnits

/-- No integer has to be rounded to compare the numbers: both are integers or both are doubles, or
the one that is an integer is at most 2^53.
-/
def IsExactWith : Number → Number → Prop
  | .int .., .int .. | .double _, .double _ => True
  | .int n _, .double _ | .double _, .int n _ => n.natAbs ≤ twoPow 53

theorem value_eq (x : Number) : x.value = x.units / Binary64.one := by
  cases x with
  | int n inRange =>
      have pos : (Binary64.one : ℚ) ≠ 0 := Nat.cast_ne_zero.mpr (Nat.ne_of_gt (twoPow_pos 1074))
      rw [value, units, Int.cast_mul, Int.cast_natCast, mul_div_cancel_right₀ _ pos]
  | double x => rfl

/-- Exact values are in the order of their units. -/
theorem value_lt_iff : x.value < y.value ↔ x.units < y.units := by
  have pos : (0 : ℚ) < Binary64.one := Nat.cast_pos.mpr (twoPow_pos 1074)
  rw [value_eq, value_eq, div_lt_div_iff_of_pos_right pos, Int.cast_lt]

theorem value_le_iff : x.value ≤ y.value ↔ x.units ≤ y.units := by
  rw [← not_lt, value_lt_iff, Int.not_lt]

theorem compare_value (x y : Number)
    : Ord.compare x.value y.value = Ord.compare x.units y.units := by
  rw [← cmp_eq_compare, ← cmp_eq_compare]
  simp only [cmp, cmpUsing, value_lt_iff]

theorem compare_mul_one (m n : Int)
    : Ord.compare (m * Binary64.one) (n * Binary64.one) = Ord.compare m n := by
  rw [← cmp_eq_compare, ← cmp_eq_compare]
  exact (strictMono_mul_right_of_pos Binary64.one_pos).cmp_map_eq m n

/-- Numbers that are not both integers are compared as doubles. -/
theorem compare_of_double (double : (∃ d, x = .double d) ∨ ∃ d, y = .double d)
    : x.compare y = Ord.compare x.toBinary64.signedUnits y.toBinary64.signedUnits := by
  rcases double with ⟨d, rfl⟩ | ⟨d, rfl⟩
  · rfl
  · cases x <;> rfl

/-- Numbers are compared by their values where no integer has to be rounded. -/
theorem compare_eq_of_isExactWith (h : x.IsExactWith y)
    : x.compare y = Ord.compare x.value y.value := by
  rw [compare_value]
  cases x with
  | int m left =>
      cases y with
      | int n right => exact (compare_mul_one m n).symm
      | double y =>
          rw [compare_of_double (.inr ⟨y, rfl⟩), toBinary64,
            Binary64.signedUnits_ofInt_of_natAbs_le _ h]
          rfl
  | double x =>
      cases y with
      | int n right =>
          rw [compare_of_double (.inl ⟨x, rfl⟩), toBinary64, toBinary64,
            Binary64.signedUnits_ofInt_of_natAbs_le _ h]
          rfl
      | double y => rfl

/-- The nearest doubles of numbers are in the order of the numbers. -/
theorem signedUnits_toBinary64_mono (h : x.units ≤ y.units)
    : x.toBinary64.signedUnits ≤ y.toBinary64.signedUnits := by
  cases x with
  | int m left =>
      have fits := natAbs_le_of_inRange left
      cases y with
      | int n right =>
          exact Binary64.signedUnits_ofInt_mono fits (natAbs_le_of_inRange right)
            (Int.le_of_mul_le_mul_right h Binary64.one_pos)
      | double y => exact Binary64.signedUnits_ofInt_le fits h
  | double x =>
      cases y with
      | int n right => exact Binary64.le_signedUnits_ofInt (natAbs_le_of_inRange right) h
      | double y => exact h

/-- Rounding puts no number on the other side of another one. -/
theorem compare_ne_gt_of_value_le (h : x.value ≤ y.value) : x.compare y ≠ .gt := by
  by_cases isExact : x.IsExactWith y
  · rw [compare_eq_of_isExactWith isExact]
    exact compare_le_iff_le.mpr h
  · have double : (∃ d, x = .double d) ∨ ∃ d, y = .double d := by
      cases x with
      | double d => exact .inl ⟨d, rfl⟩
      | int m left =>
          cases y with
          | double d => exact .inr ⟨d, rfl⟩
          | int n right => exact absurd trivial isExact
    rw [compare_of_double double]
    exact compare_le_iff_le.mpr (signedUnits_toBinary64_mono (value_le_iff.mp h))

/-- Any two numbers are compared, by whatever route, and the other way around with the reverse
result. The result is the order of the exact values where no integer has to be rounded, and never
the opposite of it.
-/
theorem routedCompare?_respects_value (x y : Number)
    : (∃ order, routedCompare? x y = some order ∧ x.compare y = order
        ∧ routedCompare? y x = some order.swap)
      ∧ (x.IsExactWith y → routedCompare? x y = some (Ord.compare x.value y.value))
      ∧ (x.value ≤ y.value → routedCompare? x y ≠ some .gt)
      ∧ (y.value ≤ x.value → routedCompare? x y ≠ some .lt) := by
  have reverse : y.compare x = (x.compare y).swap := Std.OrientedCmp.eq_swap
  rw [routedCompare?_eq, routedCompare?_eq]
  refine ⟨⟨_, rfl, rfl, congrArg some reverse⟩, ?_, ?_, ?_⟩
  · intro isExact
    rw [compare_eq_of_isExactWith isExact]
  · intro below opposite
    exact compare_ne_gt_of_value_le below (Option.some.inj opposite)
  · intro above opposite
    refine compare_ne_gt_of_value_le above ?_
    rw [reverse, Option.some.inj opposite]
    rfl

/-- Beyond 2^53 an integer may be equal to a double of another value. -/
example
    : compare (.int (twoPow 53 + 1) (by decide)) (.double (.ofInt (twoPow 53) (by decide)))
      = .eq := by
  decide +kernel

end Number

end RecordQuery
