import RecordQuery.Number.Numeral

/-! Numbers of records: integers of 64 bits, signed or unsigned, and finite doubles. Two integers
are compared exactly; any other pair is compared as doubles.
-/

namespace RecordQuery

/-- An integer that fits a signed or an unsigned 64-bit word. -/
def Number.InRange (n : Int) : Prop :=
  -(twoPow 63 : Int) ≤ n ∧ n < twoPow 64

instance (n : Int) : Decidable (Number.InRange n) :=
  inferInstanceAs (Decidable (_ ∧ _))

/-- A number of a record. -/
inductive Number where
  | int (value : Int) (inRange : Number.InRange value)
  | double (value : Binary64)
  deriving DecidableEq

namespace Number

/-- The integer as a number, none when it needs more than 64 bits. -/
def ofInt? (n : Int) : Option Number :=
  if h : InRange n then some (.int n h) else none

/-- The integer of 64 bits nearest to an integer, which is the integer itself if it is in range. -/
def nearestInt (n : Int) : Number :=
  .int (max (-(twoPow 63 : Int)) (min n (twoPow 64 - 1)))
    ⟨by omega, by have := twoPow_pos 64; omega⟩

/-- A 64-bit word as a number. -/
def ofUInt64 (n : UInt64) : Number :=
  .int n.toNat ⟨by omega, Int.ofNat_lt.mpr n.toNat_lt⟩

theorem natAbs_le_of_inRange {n : Int} (h : InRange n) : n.natAbs ≤ twoPow 64 := by
  unfold InRange at h
  have hle : twoPow 63 ≤ twoPow 64 := twoPow_le_twoPow (by decide)
  omega

/-- The nearest double. -/
def toBinary64 : Number → Binary64
  | .int n h => .ofInt n (natAbs_le_of_inRange h)
  | .double x => x

/-- The order of two numbers. -/
def compare : Number → Number → Ordering
  | .int m _, .int n _ => Ord.compare m n
  | x, y => x.toBinary64.compare y.toBinary64

/-- Doubles from 10^-5 up to 10^16 are written without an exponent; an exponent always has a sign.
-/
def layout : Decimal.Layout := ⟨-5, 15, ['e'], ['+']⟩

/-- The text of a number. -/
def text : Number → List Char
  | .int n _ => (if n < 0 then ['-'] else []) ++ Text.digitsOf n.natAbs
  | .double x => (Decimal.ofBinary64 x).write layout

theorem inRange_of_natAbs_le {n : Int} (h : n.natAbs ≤ twoPow 53) : InRange n := by
  unfold InRange
  have hsigned : twoPow 53 ≤ twoPow 63 := twoPow_le_twoPow (by decide)
  have hword : twoPow 53 < twoPow 64 := by decide
  omega

/-- Whole doubles below 2^53 become integers, all others stay doubles. -/
def ofWhole (x : Binary64) : Number :=
  if h : x.truncate.natAbs < twoPow 53 then .int x.truncate (inRange_of_natAbs_le (Nat.le_of_lt h))
  else .double x

/-- A function from doubles to nearby integers, as a function on numbers. A whole double is kept,
and any other double is below 2^52, so the integers nearby are in range.
-/
def toWhole (nearby : Binary64 → Int) (n : Number) : Number :=
  if n.toBinary64.isWhole then ofWhole n.toBinary64 else nearestInt (nearby n.toBinary64)

/-- The greatest whole number that is not above a number. -/
def floor : Number → Number := toWhole Binary64.floor

/-- The least whole number that is not below a number. -/
def ceiling : Number → Number := toWhole Binary64.ceiling

/-- The nearest whole number; a half goes up. -/
def round : Number → Number := toWhole Binary64.round

end Number

end RecordQuery
