import RecordQuery.Proofs.Calendar.Moments
import RecordQuery.Proofs.Calendar.Timestamps
import RecordQuery.Proofs.Filter.StringSearch

/-! Dates in filters. Six functions show the parts of a moment, and all of them find the moment in
the same way: in a number of milliseconds or in a text. So they succeed on the same values, and a
text shows the parts of the millisecond that it names.
-/

namespace RecordQuery

open Calendar

-----------------------------------------------------------------------------------------
-- Parts of moments
-----------------------------------------------------------------------------------------

/-- The functions that show a part of a date or of a time. -/
def UnaryFunction.dateFunctions : List UnaryFunction :=
  [.year, .month, .day, .hour, .minute, .second]

/-- A function shows a part of the moment that its argument is, and fails where it is none. -/
def UnaryFunction.ShowsPart (function : UnaryFunction) (part : Moment → Json) : Prop :=
  ∀ argument, function.apply argument
    = (argument.moment (Function.unary function).name).map part

theorem UnaryFunction.exists_showsPart {function : UnaryFunction}
    (member : function ∈ dateFunctions)
    : ∃ part, function.ShowsPart part := by
  simp only [dateFunctions, List.mem_cons, List.not_mem_nil, or_false] at member
  rcases member with rfl | rfl | rfl | rfl | rfl | rfl <;> exact ⟨_, fun _ => rfl⟩

/-- A value is read as a moment, whichever function and operand ask for it. -/
def Json.IsMoment (value : Json) (moment : Moment) : Prop :=
  ∀ name operand, Argument.moment name ⟨operand, some value⟩ = .ok moment

theorem Json.isMoment_string {text : String} {moment : Moment}
    (read : Moment.read? text = some moment)
    : (Json.string text).IsMoment moment := by
  intro name operand
  rw [Argument.moment]
  dsimp only
  rw [read]

/-- The moment of a number; where moments do not reach it, the failure names what asked for it. -/
theorem Argument.moment_number (name : String) (operand : Operand) (x : Number)
    : moment name ⟨operand, some (.number x)⟩
      = if Moment.IsReached x.whole then .ok (.ofSeconds (x.whole / 1000))
        else .error ⟨name, .validDates, ⟨operand, some (.number x)⟩⟩ := by
  rw [moment]
  dsimp only
  rw [momentOfNumber?_eq]
  by_cases reached : Moment.IsReached x.whole
  · rw [if_pos reached, if_pos reached]
  · rw [if_neg reached, if_neg reached]

theorem Json.isMoment_number {x : Number} (reached : Moment.IsReached x.whole)
    : (Json.number x).IsMoment (.ofSeconds (x.whole / 1000)) := by
  intro name operand
  rw [Argument.moment_number, if_pos reached]

section Parts

variable {record : Json} {operand : Operand} {function : UnaryFunction} {part : Moment → Json}

theorem UnaryFunction.ShowsPart.eval_eq {value : Json} (shows : function.ShowsPart part)
    (found : operand.eval record = .ok (some value))
    : (Operand.unary function operand).eval record
      = ((Argument.moment (Function.unary function).name ⟨operand, some value⟩).map part).map
        some := by
  rw [Operand.eval, found, ← shows]
  rfl

/-- What a function shows of a value that is a moment. -/
theorem UnaryFunction.ShowsPart.eval_isMoment {value : Json} {moment : Moment}
    (shows : function.ShowsPart part) (found : operand.eval record = .ok (some value))
    (isMoment : value.IsMoment moment)
    : (Operand.unary function operand).eval record = .ok (some (part moment)) := by
  rw [shows.eval_eq found, isMoment]
  rfl

/-- A function of dates fails on a number that moments do not reach. -/
theorem UnaryFunction.ShowsPart.eval_unreached {x : Number} (shows : function.ShowsPart part)
    (value : operand.eval record = .ok (some (.number x))) (unreached : ¬ Moment.IsReached x.whole)
    : (Operand.unary function operand).eval record
      = .error ⟨(Function.unary function).name, .validDates, ⟨operand, some (.number x)⟩⟩ := by
  rw [shows.eval_eq value, Argument.moment_number, if_neg unreached]
  rfl

end Parts

-----------------------------------------------------------------------------------------
-- Numbers of milliseconds
-----------------------------------------------------------------------------------------

/-- The value of an operand is an integer. -/
def Operand.HasInt (record : Json) (operand : Operand) (n : Int) : Prop :=
  ∃ inRange, operand.eval record = .ok (some (.number (.int n inRange)))

/-- The functions of dates show a millisecond of a month: the year, the month counted from zero, the
day of the week counted from Sunday, and the time that has passed since the start of the day.
-/
structure Operand.HasDateParts (record : Json) (operand : Operand) (millisecond year : Int)
    (month : Nat)
    : Prop where
  hasYear : HasInt record (.unary .year operand) year
  hasMonth : HasInt record (.unary .month operand) month
  hasDay : HasInt record (.unary .day operand) ((millisecond / 86400000 + 4) % 7)
  hasHour
    : HasInt record (.unary .hour operand)
        ((millisecond - 86400000 * (millisecond / 86400000)) / 3600000)
  hasMinute
    : HasInt record (.unary .minute operand)
        ((millisecond - 86400000 * (millisecond / 86400000)) / 60000 % 60)
  hasSecond
    : HasInt record (.unary .second operand)
        ((millisecond - 86400000 * (millisecond / 86400000)) / 1000 % 60)

theorem Operand.hasInt_of_eval {record : Json} {operand : Operand} {n : Int}
    (value : operand.eval record = .ok (some (.ofInt n))) (small : n.natAbs ≤ 300000)
    : HasInt record operand n := by
  have inRange : Number.InRange n := by
    have large : 300000 < twoPow 63 := by decide
    have larger : 300000 < twoPow 64 := by decide
    unfold Number.InRange
    omega
  exact ⟨inRange, by rw [value, Json.ofInt_of_inRange inRange]⟩

/-- On a millisecond that moments reach, the functions of dates show the month in which it lies. -/
theorem Operand.hasDateParts_of_isReached {record : Json} {operand : Operand} {x : Number}
    (value : operand.eval record = .ok (some (.number x))) (reached : Moment.IsReached x.whole)
    : ∃ year month, IsDayOf (x.whole / 86400000) year month
        ∧ HasDateParts record operand x.whole year month := by
  obtain ⟨month, sameMonth, lies⟩ := isDayOf_ofNumber (x.whole / 86400000)
  have sameDay := Moment.day_ofSeconds x.whole
  have sameSecond := Moment.second_ofSeconds x.whole
  obtain ⟨first, last⟩ := Moment.year_of_isReached reached lies
  have isMonth := lies.isMonth
  unfold firstYear at first
  unfold lastYear at last
  have shown (function : UnaryFunction) {part : Moment → Json} {n : Int}
      (shows : function.ShowsPart part) (same : part (.ofSeconds (x.whole / 1000)) = .ofInt n)
      (small : n.natAbs ≤ 300000)
      : HasInt record (.unary function operand) n := by
    refine hasInt_of_eval ?_ small
    rw [shows.eval_isMoment value (Json.isMoment_number reached), same]
  refine ⟨_, month, lies, ?_, ?_, ?_, ?_, ?_, ?_⟩
  · refine shown .year (fun _ => rfl) ?_ (by omega)
    rw [Moment.date, sameDay]
  · refine shown .month (fun _ => rfl) ?_ (by omega)
    rw [Moment.date, sameDay, sameMonth]
    congr 1
    omega
  · refine shown .day (fun _ => rfl) ?_ (by omega)
    rw [sameDay, weekday]
    congr 1
    omega
  · refine shown .hour (fun _ => rfl) ?_ (by omega)
    rw [Moment.hour]
    congr 1
    omega
  · refine shown .minute (fun _ => rfl) ?_ (by omega)
    rw [Moment.minute]
    congr 1
    omega
  · refine shown .second (fun _ => rfl) ?_ (by omega)
    rw [Moment.secondOfMinute]
    congr 1
    omega

/-- On a number, either every function of dates fails, or all of them show the millisecond that the
number is without its fraction: the month is the only one in which its day lies.
-/
theorem Operand.eval_dateFunctions_number {record : Json} {operand : Operand} {x : Number}
    (value : operand.eval record = .ok (some (.number x)))
    : (∀ function ∈ UnaryFunction.dateFunctions, ∃ mismatch,
          (Operand.unary function operand).eval record = .error mismatch)
      ∨ ∃ year month, IsDayOf (x.whole / 86400000) year month
        ∧ (∀ year' month', IsDayOf (x.whole / 86400000) year' month'
          → year' = year ∧ month' = month)
        ∧ HasDateParts record operand x.whole year month := by
  by_cases reached : Moment.IsReached x.whole
  · obtain ⟨year, month, lies, parts⟩ := hasDateParts_of_isReached value reached
    exact .inr ⟨year, month, lies, fun _ _ other => other.unique lies, parts⟩
  · refine .inl fun function member => ?_
    obtain ⟨part, shows⟩ := UnaryFunction.exists_showsPart member
    exact ⟨_, shows.eval_unreached value reached⟩

/-- Half a millisecond before March 1900 is a number of March 1900, and 1900 has no leap day. -/
theorem Operand.eval_dateFunctions_number_fraction
    : let x := Number.double ⟨true, 4407782400001 * twoPow 1073, 4407782400001, 1073,
        by decide, by decide, rfl⟩
      let operand := Operand.literal (.number x)
      operand.eval .null = .ok (some (.number x)) ∧ x.whole = -2203891200000
      ∧ HasDateParts .null operand (-2203891200000) 1900 2 := by
  intro x operand
  have whole : x.whole = -2203891200000 := by decide +kernel
  have value : operand.eval .null = .ok (some (.number x)) := rfl
  have begun : monthStart 1900 2 = -25508 := by
    rw [monthStart, ← yearStart_eq_daysTo]
    decide
  have next : monthStart 1900 (2 + 1) = -25477 := by
    rw [monthStart, ← yearStart_eq_daysTo]
    decide
  have lies : IsDayOf (x.whole / 86400000) 1900 2 := by
    rw [whole]
    exact ⟨by decide, by omega, by omega⟩
  have reached : Moment.IsReached x.whole := by
    rw [whole]
    decide
  have member : UnaryFunction.year ∈ UnaryFunction.dateFunctions := by decide
  rcases eval_dateFunctions_number value with failed | ⟨year, month, _, unique, parts⟩
  · obtain ⟨part, shows⟩ := UnaryFunction.exists_showsPart member
    obtain ⟨mismatch, failed⟩ := failed .year member
    rw [shows.eval_isMoment value (Json.isMoment_number reached)] at failed
    cases failed
  · obtain ⟨rfl, rfl⟩ := unique 1900 2 lies
    exact ⟨value, whole, whole ▸ parts⟩

/-- The functions of dates succeed on the numbers of the years that moments reach, and fail on every
other number with the function and the argument that they name. All these numbers are within the
bound on magnitudes, but some within the bound are not reached.
-/
theorem Operand.eval_dateFunction_number_iff {record : Json} {operand : Operand} {x : Number}
    (value : operand.eval record = .ok (some (.number x)))
    : (Moment.IsReached x.whole → x.IsWithin 8640000000000000)
      ∧ ∀ function ∈ UnaryFunction.dateFunctions,
          ((∃ part, (Operand.unary function operand).eval record = .ok (some part))
            ↔ Moment.IsReached x.whole)
          ∧ (¬ Moment.IsReached x.whole → (Operand.unary function operand).eval record
            = .error ⟨(Function.unary function).name, .validDates,
              ⟨operand, some (.number x)⟩⟩) := by
  constructor
  · intro reached
    refine Number.isWithin_of_natAbs_whole_lt ?_
    unfold Moment.IsReached at reached
    omega
  · intro function member
    obtain ⟨part, shows⟩ := UnaryFunction.exists_showsPart member
    refine ⟨⟨?_, fun reached => ?_⟩, shows.eval_unreached value⟩
    · rintro ⟨shown, found⟩
      refine Classical.not_not.mp fun unreached => ?_
      rw [shows.eval_unreached value unreached] at found
      cases found
    · exact ⟨_, shows.eval_isMoment value (Json.isMoment_number reached)⟩

/-- The last millisecond of the year 262142 is a date, and the next one is none. -/
theorem Operand.eval_dateFunction_number_last
    : let last := Number.int 8210266876799999 (by decide)
      let next := Number.int 8210266876800000 (by decide)
      (Operand.literal (.number last)).eval .null = .ok (some (.number last))
      ∧ (Operand.literal (.number next)).eval .null = .ok (some (.number next))
      ∧ (∃ year, (Operand.unary .year (.literal (.number last))).eval .null = .ok (some year))
      ∧ (Operand.unary .year (.literal (.number next))).eval .null
        = .error ⟨"year", .validDates, ⟨.literal (.number next), some (.number next)⟩⟩
      ∧ next.IsWithin 8640000000000000 := by
  intro last next
  have member : UnaryFunction.year ∈ UnaryFunction.dateFunctions := by decide
  have value (x : Number) : (Operand.literal (.number x)).eval .null = .ok (some (.number x)) := rfl
  have accepted := ((eval_dateFunction_number_iff (value last)).2 .year member).1
  have rejected := ((eval_dateFunction_number_iff (value next)).2 .year member).2
  exact ⟨value last, value next, accepted.mpr (by decide), rejected (by decide), by decide⟩

/-- The greatest number within the bound is no date. -/
theorem Operand.not_eval_dateFunction_iff_isWithin
    : ¬ ∀ (record : Json) (operand : Operand) (x : Number),
        operand.eval record = .ok (some (.number x))
        → ∀ function ∈ UnaryFunction.dateFunctions,
            (x.IsWithin 8640000000000000
              → ∃ part, (Operand.unary function operand).eval record = .ok (some part))
            ∧ (¬ x.IsWithin 8640000000000000
              → ∃ mismatch, (Operand.unary function operand).eval record = .error mismatch) := by
  intro claimed
  let greatest := Number.int 8640000000000000 (by decide)
  have member : UnaryFunction.year ∈ UnaryFunction.dateFunctions := by decide
  obtain ⟨year, found⟩ :=
    (claimed .null (.literal (.number greatest)) greatest rfl .year member).1 (Nat.le_refl _)
  obtain ⟨part, shows⟩ := UnaryFunction.exists_showsPart member
  rw [shows.eval_unreached rfl (by decide)] at found
  cases found

-----------------------------------------------------------------------------------------
-- Texts and numbers
-----------------------------------------------------------------------------------------

/-- Every function of dates succeeds on two values, with the same value. -/
def Json.SameDates (left right : Json) : Prop :=
  ∀ function ∈ UnaryFunction.dateFunctions, ∃ part, ∀ record operand,
    operand.eval record = .ok (some left) ∨ operand.eval record = .ok (some right)
    → (Operand.unary function operand).eval record = .ok (some part)

theorem Json.IsMoment.sameDates {left right : Json} {moment : Moment}
    (isMoment : left.IsMoment moment) (isMoment' : right.IsMoment moment)
    : SameDates left right := by
  intro function member
  obtain ⟨part, shows⟩ := UnaryFunction.exists_showsPart member
  refine ⟨part moment, ?_⟩
  rintro record operand (found | found)
  · exact shows.eval_isMoment found isMoment
  · exact shows.eval_isMoment found isMoment'

/-- A date and a time written with an offset have the parts of the number of milliseconds to their
instant; written without an offset, they have the parts that they have in universal time.
-/
theorem Json.sameDates_wallTime (wall : WallTime) (offset : Offset)
    : (∀ x : Number, x.whole = wall.milliseconds offset
        → SameDates (.string (String.ofList (wall.text 'T' ++ offset.text))) (.number x))
      ∧ ∀ separator, separator = 'T' ∨ Text.isBlank separator = true
        → SameDates (.string (String.ofList (wall.text separator)))
          (.string (String.ofList (wall.text 'T' ++ ['Z']))) := by
  constructor
  · intro x whole
    have reached : Moment.IsReached x.whole := by
      rw [whole]
      exact wall.isReached_milliseconds offset
    have read := isMoment_string (wall.read?_timestamp offset)
    rw [← wall.milliseconds_div, ← whole] at read
    exact read.sameDates (isMoment_number reached)
  · intro separator between
    have read := isMoment_string (wall.read?_text between)
    exact read.sameDates (isMoment_string (wall.read?_timestamp .universal))

/-- The last half hour of a leap day, behind universal time, is a half hour of March there, and a
fraction before 1970 is rounded down.
-/
theorem Json.sameDates_wallTime_leapDay
    : let wall : WallTime := ⟨1904, 2, 29, 23, 30, 15, ['9', '9', '9', '5'], by decide, by decide,
        ⟨by decide, 29, rfl, by decide⟩, by decide, by decide, by decide, by simp [Text.isDigit]⟩
      let offset := Offset.behind 1 0
      let x := Number.int (-2077658984001) (by decide)
      wall.text 'T' ++ offset.text = "1904-02-29T23:30:15.9995-01:00".toList
      ∧ x.whole = wall.milliseconds offset
      ∧ SameDates (.string "1904-02-29T23:30:15.9995-01:00") (.number x)
      ∧ Text.isBlank ' ' = true
      ∧ SameDates (.string "1904-02-29 23:30:15.9995") (.string "1904-02-29T23:30:15.9995Z") := by
  intro wall offset x
  have written : wall.text 'T' ++ offset.text = "1904-02-29T23:30:15.9995-01:00".toList := by decide
  have whole : x.whole = wall.milliseconds offset := by
    simp only [WallTime.milliseconds, WallTime.seconds, monthStart, ← yearStart_eq_daysTo]
    decide
  have spaced : wall.text ' ' = "1904-02-29 23:30:15.9995".toList := by decide
  have universal : wall.text 'T' ++ ['Z'] = "1904-02-29T23:30:15.9995Z".toList := by decide
  have blank : Text.isBlank ' ' = true := by decide
  obtain ⟨numbers, texts⟩ := sameDates_wallTime wall offset
  have same := numbers x whole
  have sameText := texts ' ' (.inr blank)
  rw [written, String.ofList_toList] at same
  rw [spaced, universal, String.ofList_toList, String.ofList_toList] at sameText
  exact ⟨written, whole, same, blank, sameText⟩

end RecordQuery
