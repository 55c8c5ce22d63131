/-! Powers of two: the limits of words, and the steps in which magnitudes of doubles are counted. -/

namespace RecordQuery

/-- The power of two with an exponent. -/
def twoPow (exponent : Nat) : Nat :=
  Nat.pow 2 exponent

theorem twoPow_pos (exponent : Nat) : 0 < twoPow exponent :=
  Nat.two_pow_pos exponent

@[simp]
theorem twoPow_zero : twoPow 0 = 1 := rfl

theorem twoPow_add (m n : Nat) : twoPow (m + n) = twoPow m * twoPow n :=
  Nat.pow_add 2 m n

theorem twoPow_le_twoPow {m n : Nat} (h : m ≤ n) : twoPow m ≤ twoPow n :=
  Nat.pow_le_pow_right (by decide) h

theorem lt_of_twoPow_lt_twoPow {m n : Nat} (h : twoPow m < twoPow n) : m < n :=
  (Nat.pow_lt_pow_iff_right (by decide)).mp h

theorem lt_twoPow_log2 (n : Nat) : n < twoPow (n.log2 + 1) :=
  Nat.lt_log2_self

theorem twoPow_log2_le {n : Nat} (h : n ≠ 0) : twoPow n.log2 ≤ n :=
  Nat.log2_self_le h

end RecordQuery
