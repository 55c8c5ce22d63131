import RecordQuery.Filter.Evaluation
import RecordQuery.Proofs.Calendar.Months
import RecordQuery.Proofs.Number.Integers

/-! Moments of numbers of milliseconds. A moment is the second in which its millisecond lies, also
before 1970, and moments reach from the year -262143 to the year 262142. A number stands for the
millisecond that is left without its fraction; the bound on the magnitude of a number shuts out
nothing that moments reach.
-/

namespace RecordQuery

namespace Calendar.Moment

/-- A millisecond of one of the years from -262143 to 262142. -/
def IsReached (milliseconds : Int) : Prop :=
  -8334601228800000 ≤ milliseconds ∧ milliseconds ≤ 8210266876799999

instance (milliseconds : Int) : Decidable (IsReached milliseconds) :=
  inferInstanceAs (Decidable (_ ∧ _))

theorem day_ofSeconds (milliseconds : Int)
    : (ofSeconds (milliseconds / 1000)).day = milliseconds / 86400000 := by
  rw [ofSeconds, Int.ediv_ediv_of_nonneg (by decide)]
  rfl

theorem second_ofSeconds (milliseconds : Int)
    : (ofSeconds (milliseconds / 1000)).second
      = (milliseconds - 86400000 * (milliseconds / 86400000)) / 1000 := by
  have days : milliseconds / 1000 / 86400 = milliseconds / 86400000 :=
    Int.ediv_ediv_of_nonneg (by decide)
  simp only [ofSeconds, daySeconds]
  omega

/-- A millisecond lies in the years that moments reach as its day lies in them. -/
theorem isReached_iff (milliseconds : Int)
    : IsReached milliseconds ↔ yearStart firstYear ≤ milliseconds / 86400000
        ∧ milliseconds / 86400000 < yearStart (lastYear + 1) := by
  have first : yearStart firstYear = -96465292 := by decide
  have last : yearStart (lastYear + 1) = 95026237 := by decide
  rw [first, last, IsReached]
  omega

theorem ofMilliseconds?_eq (milliseconds : Int)
    : ofMilliseconds? milliseconds
      = if IsReached milliseconds then some (ofSeconds (milliseconds / 1000)) else none := by
  simp only [ofMilliseconds?, day_ofSeconds, isReached_iff]

/-- The year of a millisecond that moments reach is one of the years from -262143 to 262142. -/
theorem year_of_isReached {milliseconds : Int} (reached : IsReached milliseconds) {year : Int}
    {month : Nat} (lies : IsDayOf (milliseconds / 86400000) year month)
    : firstYear ≤ year ∧ year ≤ lastYear := by
  obtain ⟨first, last⟩ := (isReached_iff milliseconds).mp reached
  obtain ⟨begun, notOver⟩ := lies.isInYear
  constructor
  · refine Int.not_lt.mp fun early => ?_
    have next : yearStart (year + 1) ≤ yearStart firstYear := yearStart_mono early
    omega
  · refine Int.not_lt.mp fun late => ?_
    have next : yearStart (lastYear + 1) ≤ yearStart year := yearStart_mono late
    omega

end Calendar.Moment

open Calendar

namespace Number

/-- The whole part of a number: the number without its fraction. -/
def whole : Number → Int
  | .int n _ => n
  | .double x => x.truncate

/-- The magnitude of a number is at most an integer. -/
def IsWithin (bound : Nat) : Number → Prop
  | .int n _ => n.natAbs ≤ bound
  | .double x => x.units ≤ bound * Binary64.one

instance (bound : Nat) : (x : Number) → Decidable (x.IsWithin bound)
  | .int _ _ => inferInstanceAs (Decidable (_ ≤ _))
  | .double _ => inferInstanceAs (Decidable (_ ≤ _))

theorem isWithin_of_natAbs_whole_lt {x : Number} {bound : Nat} (h : x.whole.natAbs < bound)
    : x.IsWithin bound := by
  cases x with
  | int n _ => exact Nat.le_of_lt h
  | double x =>
      have pos : 0 < Binary64.one := twoPow_pos 1074
      rw [whole, Binary64.natAbs_truncate, Nat.div_lt_iff_lt_mul pos] at h
      exact Nat.le_of_lt h

theorem le_natAbs_whole_of_not_isWithin {x : Number} {bound : Nat} (h : ¬ x.IsWithin bound)
    : bound ≤ x.whole.natAbs :=
  Nat.not_lt.mp fun less => h (isWithin_of_natAbs_whole_lt less)

end Number

/-- The nearest double of a number is within a bound below 2^53 as the number is, and has the whole
part of the number then.
-/
theorem Number.toBinary64_within {bound : Nat} (small : bound < twoPow 53) (x : Number)
    : (x.toBinary64.units ≤ bound * Binary64.one ↔ x.IsWithin bound)
      ∧ (x.IsWithin bound → x.toBinary64.truncate = x.whole) := by
  cases x with
  | double x => exact ⟨.rfl, fun _ => rfl⟩
  | int n inRange =>
      have fits := natAbs_le_of_inRange inRange
      have pos : 0 < Binary64.one := twoPow_pos 1074
      rcases Nat.le_total n.natAbs (twoPow 53) with exact | large
      · refine ⟨?_, fun _ => Binary64.truncate_ofInt fits exact⟩
        rw [toBinary64, Binary64.units_ofInt_of_natAbs_le fits exact, IsWithin,
          Nat.mul_le_mul_right_iff pos]
      · have beyond := Binary64.twoPow_mul_one_le_units_ofInt fits large
        have above : bound * Binary64.one < twoPow 53 * Binary64.one :=
          Nat.mul_lt_mul_of_pos_right small pos
        have outside : ¬ (int n inRange).IsWithin bound :=
          Nat.not_le.mpr (Nat.lt_of_lt_of_le small large)
        refine ⟨iff_of_false ?_ outside, fun within => absurd within outside⟩
        exact Nat.not_le.mpr (Nat.lt_of_lt_of_le above beyond)

/-- A number stands for the moment of the millisecond that its whole part counts, where moments
reach it; what the bound on magnitudes shuts out, they do not reach.
-/
theorem Argument.momentOfNumber?_eq (x : Number)
    : momentOfNumber? x
      = if Moment.IsReached x.whole then some (.ofSeconds (x.whole / 1000)) else none := by
  have small : maxMilliseconds < twoPow 53 := by decide
  obtain ⟨within, same⟩ := Number.toBinary64_within small x
  unfold momentOfNumber?
  dsimp only
  split
  · next bounded => rw [same (within.mp bounded), Moment.ofMilliseconds?_eq]
  · next unbounded =>
      have beyond := Number.le_natAbs_whole_of_not_isWithin (mt within.mpr unbounded)
      have unreached : ¬ Moment.IsReached x.whole := by
        unfold maxMilliseconds at beyond
        unfold Moment.IsReached
        omega
      rw [if_neg unreached]

end RecordQuery
