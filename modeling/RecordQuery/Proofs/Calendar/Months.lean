import Mathlib.Algebra.GroupWithZero.Nat
import Mathlib.Algebra.Order.BigOperators.Group.List
import Mathlib.Algebra.Order.Group.Nat
import Mathlib.Algebra.Ring.Int.Defs
import RecordQuery.Calendar.Basic

/-! Which month of which year a day lies in. The days of the years add up to the day numbers at
which they start, on either side of 1970. So the year that is found for a day is the one in which it
lies, and walking along the lengths of its months ends at the month in which it lies.
-/

namespace RecordQuery.Calendar

variable {day year other : Int} {month : Nat}

-----------------------------------------------------------------------------------------
-- Days counted year by year and month by month
-----------------------------------------------------------------------------------------

/-- The days of a year. -/
def yearLength (year : Int) : Int :=
  (monthLengths year).sum

/-- The days of a number of years in a row. -/
def daysOfYears (first : Int) (count : Nat) : Int :=
  ((List.range count).map (fun (k : Nat) => yearLength (first + k))).sum

/-- The days from the first of January 1970 to the first of January of a year, counted year by year;
before 1970 they are counted backwards.
-/
def daysTo (year : Int) : Int :=
  daysOfYears 1970 (year - 1970).toNat - daysOfYears year (1970 - year).toNat

/-- The day number of the first day of a month. Months are counted from zero, and the month behind
the last one is the start of the next year.
-/
def monthStart (year : Int) (month : Nat) : Int :=
  daysTo year + ((monthLengths year).take month).sum

/-- A day lies in a month of a year. -/
structure IsDayOf (day year : Int) (month : Nat) : Prop where
  isMonth : month < 12
  isBegun : monthStart year month ≤ day
  isNotOver : day < monthStart year (month + 1)

theorem yearLength_eq (year : Int) : yearLength year = if isLeap year then 366 else 365 := by
  unfold yearLength monthLengths
  cases isLeap year <;> rfl

theorem daysOfYears_zero (first : Int) : daysOfYears first 0 = 0 := rfl

/-- One year more at the end of the row. -/
theorem daysOfYears_succ (first : Int) (count : Nat)
    : daysOfYears first (count + 1) = daysOfYears first count + yearLength (first + count) := by
  simp [daysOfYears, List.range_succ]

/-- One year more at the start of the row. -/
theorem daysOfYears_succ_first (first : Int) (count : Nat)
    : daysOfYears first (count + 1) = yearLength first + daysOfYears (first + 1) count := by
  have next (k : Nat) : first + ((k : Int) + 1) = first + 1 + k := by omega
  simp [daysOfYears, List.range_succ_eq_map, Function.comp_def, next]

/-- A year behind 1970 comes at the end of the years that are counted, and a year before 1970 comes
at their start.
-/
theorem daysTo_add_one (year : Int) : daysTo (year + 1) = daysTo year + yearLength year := by
  unfold daysTo
  rcases Int.lt_or_le year 1970 with before | after
  · obtain ⟨n, count⟩ : ∃ n : Nat, (1970 - year).toNat = n + 1 := ⟨(1969 - year).toNat, by omega⟩
    have fewer : (1970 - (year + 1)).toNat = n := by omega
    have none : (year - 1970).toNat = 0 := by omega
    have none' : (year + 1 - 1970).toNat = 0 := by omega
    rw [none, none', count, fewer, daysOfYears_zero, daysOfYears_succ_first]
    omega
  · have more : (year + 1 - 1970).toNat = (year - 1970).toNat + 1 := by omega
    have none : (1970 - year).toNat = 0 := by omega
    have none' : (1970 - (year + 1)).toNat = 0 := by omega
    have last : 1970 + ((year - 1970).toNat : Int) = year := by omega
    rw [none, none', more, daysOfYears_zero, daysOfYears_zero, daysOfYears_succ, last]
    omega

-----------------------------------------------------------------------------------------
-- Years
-----------------------------------------------------------------------------------------

theorem yearStart_add_one (year : Int)
    : yearStart (year + 1) = yearStart year + yearLength year := by
  rw [yearLength_eq, yearStart, yearStart]
  cases leap : isLeap year with
  | false =>
      simp only [isLeap, Bool.and_eq_false_iff, Bool.or_eq_false_iff, beq_eq_false_iff_ne,
        bne_eq_false_iff_eq, ne_eq] at leap
      simp only [Bool.false_eq_true, ↓reduceIte]
      omega
  | true =>
      simp only [isLeap, Bool.and_eq_true, Bool.or_eq_true, beq_iff_eq, bne_iff_ne, ne_eq] at leap
      simp only [↓reduceIte]
      omega

/-- The start of a year in closed form is the count year by year, by induction on the years from
1970 on and back from it.
-/
theorem yearStart_eq_daysTo (year : Int) : yearStart year = daysTo year := by
  induction year using Int.inductionOn' (b := 1970) with
  | zero => rfl
  | succ year _ ih => rw [yearStart_add_one, daysTo_add_one, ih]
  | pred year _ ih =>
      have step := yearStart_add_one (year - 1)
      have step' := daysTo_add_one (year - 1)
      rw [Int.sub_add_cancel] at step step'
      omega

theorem yearStart_mono (h : year ≤ other) : yearStart year ≤ yearStart other := by
  unfold yearStart
  omega

/-- A day lies in the year that is found for it: the mean year leads to a year that is at most one
off.
-/
theorem yearStart_yearOf (day : Int)
    : yearStart (yearOf day) ≤ day ∧ day < yearStart (yearOf day + 1) := by
  have near : yearStart ((day + 719528) * 400 / 146097 - 1) ≤ day
      ∧ day < yearStart ((day + 719528) * 400 / 146097 + 2) := by
    unfold yearStart
    omega
  unfold yearOf
  dsimp only
  split
  · next early => exact ⟨near.1, by rwa [Int.sub_add_cancel]⟩
  · next notEarly =>
      split
      · next late => exact ⟨late, by rw [Int.add_assoc]; exact near.2⟩
      · next notLate => exact ⟨Int.not_lt.mp notEarly, Int.not_le.mp notLate⟩

/-- A day lies in one year only. -/
theorem year_unique (begun : yearStart year ≤ day) (notOver : day < yearStart (year + 1))
    (begun' : yearStart other ≤ day) (notOver' : day < yearStart (other + 1))
    : year = other := by
  rcases Int.lt_trichotomy year other with before | same | after
  · have next : yearStart (year + 1) ≤ yearStart other := yearStart_mono before
    omega
  · exact same
  · have next : yearStart (other + 1) ≤ yearStart year := yearStart_mono after
    omega

-----------------------------------------------------------------------------------------
-- Months
-----------------------------------------------------------------------------------------

/-- Walking along lengths ends at the one that reaches beyond a place, by induction on the lengths.
-/
theorem monthOf_eq (lengths : List Nat) (place first : Nat) (inside : place < lengths.sum)
    : ∃ i, i < lengths.length ∧ (lengths.take i).sum ≤ place ∧ place < (lengths.take (i + 1)).sum
        ∧ monthOf place first lengths = (first + i, place - (lengths.take i).sum + 1) := by
  induction lengths generalizing place first with
  | nil => exact absurd inside (Nat.not_lt_zero place)
  | cons length rest ih =>
      unfold monthOf
      split
      · next here => exact ⟨0, Nat.succ_pos _, Nat.zero_le _, by simpa using here, by simp⟩
      · next behind =>
          rw [List.sum_cons] at inside
          obtain ⟨i, short, begun, notOver, found⟩ := ih (place - length) (first + 1) (by omega)
          refine ⟨i + 1, Nat.succ_lt_succ short, ?_, ?_, ?_⟩
          · rw [List.take_succ_cons, List.sum_cons]
            omega
          · rw [List.take_succ_cons, List.sum_cons]
            omega
          · rw [found, List.take_succ_cons, List.sum_cons, Prod.mk.injEq]
            omega

theorem monthStart_mono {m n : Nat} (year : Int) (h : m ≤ n)
    : monthStart year m ≤ monthStart year n := by
  have sums : ((monthLengths year).take m).sum ≤ ((monthLengths year).take n).sum :=
    List.monotone_sum_take _ h
  unfold monthStart
  omega

theorem monthStart_zero (year : Int) : monthStart year 0 = yearStart year := by
  rw [yearStart_eq_daysTo, monthStart, List.take_zero, List.sum_nil]
  omega

theorem monthStart_twelve (year : Int) : monthStart year 12 = yearStart (year + 1) := by
  rw [yearStart_add_one, yearStart_eq_daysTo, monthStart, yearLength]
  rfl

/-- The day number of a date is the start of its month and the days before it there. -/
theorem Date.number_eq (date : Date)
    : date.number = monthStart date.year (date.month - 1) + (date.day - 1 : Nat) := by
  rw [Date.number, daysBefore, monthStart, yearStart_eq_daysTo, List.sum_eq_foldl]

/-- A day lies in the month of the date that is found for it. -/
theorem isDayOf_ofNumber (day : Int)
    : ∃ month, (Date.ofNumber day).month = month + 1
        ∧ IsDayOf day (Date.ofNumber day).year month := by
  obtain ⟨begun, notOver⟩ := yearStart_yearOf day
  have length := yearStart_add_one (yearOf day)
  unfold yearLength at length
  obtain ⟨month, isMonth, started, notDone, found⟩ :=
    monthOf_eq (monthLengths (yearOf day)) (day - yearStart (yearOf day)).toNat 1 (by omega)
  refine ⟨month, ?_, isMonth, ?_, ?_⟩
  · simp only [Date.ofNumber, found, Nat.add_comm]
  · simp only [Date.ofNumber, monthStart, ← yearStart_eq_daysTo]
    omega
  · simp only [Date.ofNumber, monthStart, ← yearStart_eq_daysTo]
    omega

theorem IsDayOf.isInYear (lies : IsDayOf day year month)
    : yearStart year ≤ day ∧ day < yearStart (year + 1) := by
  rw [← monthStart_zero, ← monthStart_twelve]
  exact ⟨Int.le_trans (monthStart_mono year (Nat.zero_le month)) lies.isBegun,
    Int.lt_of_lt_of_le lies.isNotOver (monthStart_mono year lies.isMonth)⟩

/-- A day lies in one month of one year only. -/
theorem IsDayOf.unique {month' : Nat} (lies : IsDayOf day year month)
    (lies' : IsDayOf day other month')
    : year = other ∧ month = month' := by
  obtain rfl : year = other :=
    year_unique lies.isInYear.1 lies.isInYear.2 lies'.isInYear.1 lies'.isInYear.2
  refine ⟨rfl, ?_⟩
  have begun := lies.isBegun
  have notOver := lies.isNotOver
  have begun' := lies'.isBegun
  have notOver' := lies'.isNotOver
  rcases Nat.lt_trichotomy month month' with before | same | after
  · have next := monthStart_mono year (show month + 1 ≤ month' from before)
    omega
  · exact same
  · have next := monthStart_mono year (show month' + 1 ≤ month from after)
    omega

end RecordQuery.Calendar
