import RecordQuery.Number.Basic
import RecordQuery.Proofs.Number.Rounding

/-! The order of numbers. Rounding to the nearest double keeps the order of integers and may lose
their differences, so numbers are ordered as their nearest doubles are, and two integers that have
one nearest double are told apart by their values only. A double between two such integers is equal
to both: there, and nowhere else, the order of numbers is not transitive.
-/

namespace RecordQuery

namespace Binary64

-----------------------------------------------------------------------------------------
-- Rounding keeps the order
-----------------------------------------------------------------------------------------

theorem roundQuotient_mono {m n : Nat} (d : Nat) (h : m ≤ n)
    : roundQuotient m d ≤ roundQuotient n d := by
  rcases Nat.lt_or_eq_of_le (Nat.div_le_div_right (c := d) h) with less | same
  · have upper := roundQuotient_le m d
    have lower := le_roundQuotient n d
    omega
  · -- the same whole part, so the rests are in order
    have first := Nat.div_add_mod m d
    have second := Nat.div_add_mod n d
    rw [same] at first
    have rest : m % d ≤ n % d := by omega
    unfold roundQuotient
    simp only [same, gt_iff_lt, Bool.or_eq_true, decide_eq_true_eq, Bool.and_eq_true, beq_iff_eq]
    split
    · split
      · exact Nat.le_refl _
      · omega
    · split
      · exact Nat.le_succ _
      · exact Nat.le_refl _

theorem log2_mono {m n : Nat} (h : m ≤ n) : m.log2 ≤ n.log2 := by
  by_cases zero : m = 0
  · rw [zero]
    exact Nat.zero_le _
  · refine Nat.le_of_lt_add_one (lt_of_twoPow_lt_twoPow ?_)
    exact Nat.lt_of_le_of_lt (Nat.le_trans (twoPow_log2_le zero) h) (lt_twoPow_log2 n)

/-- What is rounded stays below the next power of two or reaches it. -/
theorem nearestUnits_le_twoPow (n d : Nat)
    : nearestUnits n d ≤ twoPow (53 + excessBits (n / d)) := by
  have upper := roundQuotient_le n (d * twoPow (excessBits (n / d)))
  rw [← Nat.div_div_eq_div_mul] at upper
  have lead := div_excess_lt (n / d)
  unfold nearestUnits
  dsimp only
  rw [twoPow_add]
  exact Nat.mul_le_mul_right _ (by omega)

/-- Rounding keeps the order: quotients with as many bits are rounded to the same unit, and a power
of two stands between all others.
-/
theorem nearestUnits_mono {m n : Nat} (d : Nat) (h : m ≤ n)
    : nearestUnits m d ≤ nearestUnits n d := by
  have quotients : m / d ≤ n / d := Nat.div_le_div_right h
  have bits := log2_mono quotients
  by_cases same : excessBits (m / d) = excessBits (n / d)
  · unfold nearestUnits
    dsimp only
    rw [same]
    exact Nat.mul_le_mul_right _ (roundQuotient_mono _ h)
  · have nonzero : n / d ≠ 0 := by
      intro zero
      rw [zero, Nat.le_zero] at quotients
      rw [quotients, zero] at same
      exact same rfl
    have between : 53 + excessBits (m / d) ≤ (n / d).log2 := by
      unfold excessBits at same ⊢
      omega
    calc
      nearestUnits m d ≤ twoPow (53 + excessBits (m / d)) := nearestUnits_le_twoPow m d
      _ ≤ twoPow (n / d).log2 := twoPow_le_twoPow between
      _ ≤ nearestUnits n d := twoPow_le_nearestUnits (twoPow_log2_le nonzero)

/-- The nearest doubles of integers are in the order of the integers. -/
theorem signedUnits_ofInt_mono {m n : Int} (fitsLeft : m.natAbs ≤ twoPow 64)
    (fitsRight : n.natAbs ≤ twoPow 64) (h : m ≤ n)
    : (ofInt m fitsLeft).signedUnits ≤ (ofInt n fitsRight).signedUnits := by
  have grows {k l : Nat} (below : k ≤ l) : nearestUnits (k * one) 1 ≤ nearestUnits (l * one) 1 :=
    nearestUnits_mono 1 (Nat.mul_le_mul_right one below)
  simp only [signedUnits, ofInt, decide_eq_true_eq]
  split
  · next left =>
      split
      · next right =>
          have shrinks := grows (show n.natAbs ≤ m.natAbs by omega)
          omega
      · omega
  · next left =>
      have right : ¬ n < 0 := by omega
      rw [if_neg right]
      exact Int.ofNat_le.mpr (grows (by omega))

/-- An integer of up to 2^53 is its own nearest double. -/
theorem signedUnits_ofInt_of_natAbs_le {n : Int} (fits : n.natAbs ≤ twoPow 64)
    (small : n.natAbs ≤ twoPow 53)
    : (ofInt n fits).signedUnits = n * one := by
  have isMagnitude : IsMagnitude (n.natAbs * one) := by
    rcases Nat.lt_or_eq_of_le small with less | same
    · exact ⟨n.natAbs, 1074, less, by decide, rfl⟩
    · refine ⟨1, 53 + 1074, by decide, by decide, ?_⟩
      rw [same, one, ← twoPow_add, Nat.one_mul]
  simp only [signedUnits, ofInt, decide_eq_true_eq, nearestUnits_of_isMagnitude isMagnitude]
  split
  · next negative =>
      rw [Int.natCast_mul, ← Int.neg_mul]
      congr 1
      omega
  · next positive =>
      rw [Int.natCast_mul]
      congr 1
      omega

theorem one_pos : (0 : Int) < one :=
  Int.ofNat_lt.mpr (twoPow_pos 1074)

end Binary64

namespace Number

-----------------------------------------------------------------------------------------
-- Comparing numbers
-----------------------------------------------------------------------------------------

instance : Std.OrientedCmp compare where
  eq_swap {x y} := by
    cases x <;> cases y <;> exact (Int.compare_swap ..).symm

/-- Numbers are in the order of their nearest doubles. -/
theorem signedUnits_le_of_isLE_compare {x y : Number} (h : (x.compare y).isLE)
    : x.toBinary64.signedUnits ≤ y.toBinary64.signedUnits := by
  cases x with
  | int m left =>
      cases y with
      | int n right =>
          rw [compare, Int.isLE_compare] at h
          exact Binary64.signedUnits_ofInt_mono (natAbs_le_of_inRange left)
            (natAbs_le_of_inRange right) h
      | double d => exact Int.isLE_compare.mp h
  | double d => cases y <;> exact Int.isLE_compare.mp h

/-- Numbers that are not both integers are compared by their nearest doubles. -/
theorem isLE_compare_of_double {x y : Number} (double : (∃ d, x = .double d) ∨ ∃ d, y = .double d)
    : (x.compare y).isLE ↔ x.toBinary64.signedUnits ≤ y.toBinary64.signedUnits := by
  rcases double with ⟨d, rfl⟩ | ⟨d, rfl⟩
  · exact Int.isLE_compare
  · cases x <;> exact Int.isLE_compare

/-- Two different integers, and a double that is equal to both. -/
def Conflated (x y z : Number) : Prop :=
  (∃ m left n right, x = .int m left ∧ z = .int n right ∧ m ≠ n) ∧ (∃ d, y = .double d)
    ∧ x.compare y = .eq ∧ y.compare z = .eq

theorem Conflated.compare_ne {x y z : Number} (h : x.Conflated y z) : x.compare z ≠ .eq := by
  obtain ⟨⟨m, left, n, right, rfl, rfl, differ⟩, _⟩ := h
  rw [compare, ne_eq, Int.compare_eq_eq]
  exact differ

theorem Conflated.symm {x y z : Number} (h : x.Conflated y z) : z.Conflated y x := by
  obtain ⟨⟨m, left, n, right, isLeft, isRight, differ⟩, double, first, second⟩ := h
  exact ⟨⟨n, right, m, left, isRight, isLeft, differ.symm⟩, double, Std.OrientedCmp.eq_symm second,
    Std.OrientedCmp.eq_symm first⟩

/-- Integers of up to 2^53 are told apart by every double. -/
theorem not_conflated_of_natAbs_le {m n : Int} {left : InRange m} {right : InRange n} {y : Number}
    (first : m.natAbs ≤ twoPow 53) (second : n.natAbs ≤ twoPow 53)
    : ¬ (int m left).Conflated y (int n right) := by
  intro h
  obtain ⟨⟨_, _, _, _, sameLeft, sameRight, differ⟩, ⟨d, rfl⟩, low, high⟩ := h
  cases sameLeft
  cases sameRight
  have units : m * Binary64.one = n * Binary64.one := by
    rw [← Binary64.signedUnits_ofInt_of_natAbs_le (natAbs_le_of_inRange left) first,
      ← Binary64.signedUnits_ofInt_of_natAbs_le (natAbs_le_of_inRange right) second]
    exact (Int.compare_eq_eq.mp low).trans (Int.compare_eq_eq.mp high)
  exact differ (Int.eq_of_mul_eq_mul_right (Int.ne_of_gt Binary64.one_pos) units)

/-- The order of numbers is transitive but for a double that is equal to two integers. -/
theorem isLE_compare_trans {x y z : Number} (low : (x.compare y).isLE) (high : (y.compare z).isLE)
    : (x.compare z).isLE ∨ x.Conflated y z := by
  have first := signedUnits_le_of_isLE_compare low
  have second := signedUnits_le_of_isLE_compare high
  have through := Int.le_trans first second
  cases x with
  | double d => exact .inl ((isLE_compare_of_double (.inl ⟨d, rfl⟩)).mpr through)
  | int m left =>
      cases z with
      | double e => exact .inl ((isLE_compare_of_double (.inr ⟨e, rfl⟩)).mpr through)
      | int n right =>
          rcases Int.lt_or_le n m with greater | ordered
          · cases y with
            | int k inRange =>
                have below := Int.le_trans (Int.isLE_compare.mp low) (Int.isLE_compare.mp high)
                omega
            | double d =>
                -- rounding keeps the order of the integers, so all three have one double
                have back := Binary64.signedUnits_ofInt_mono (natAbs_le_of_inRange right)
                  (natAbs_le_of_inRange left) (Int.le_of_lt greater)
                refine .inr ⟨⟨m, left, n, right, rfl, rfl, by omega⟩, ⟨d, rfl⟩, ?_, ?_⟩
                · exact Int.compare_eq_eq.mpr (Int.le_antisymm first (Int.le_trans second back))
                · exact Int.compare_eq_eq.mpr (Int.le_antisymm second (Int.le_trans back first))
          · exact .inl (Int.isLE_compare.mpr ordered)

/-- Equality of numbers is transitive but for the same. -/
theorem compare_eq_trans {x y z : Number} (low : x.compare y = .eq) (high : y.compare z = .eq)
    : x.compare z = .eq ∨ x.Conflated y z := by
  rcases isLE_compare_trans (x := x) (y := y) (z := z) (by rw [low]; rfl) (by rw [high]; rfl)
    with below | apart
  · have low' := Std.OrientedCmp.eq_symm low
    have high' := Std.OrientedCmp.eq_symm high
    rcases isLE_compare_trans (x := z) (y := y) (z := x) (by rw [high']; rfl) (by rw [low']; rfl)
      with above | apart
    · exact .inl (Std.OrientedCmp.isLE_antisymm below above)
    · exact .inr apart.symm
  · exact .inr apart

end Number

end RecordQuery
