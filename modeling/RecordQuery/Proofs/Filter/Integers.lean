import RecordQuery.Filter.Evaluation
import RecordQuery.Proofs.Filter.RoundTrip
import RecordQuery.Proofs.Number.Integers
import RecordQuery.Proofs.Order.Comparisons

/-! Integers in filters: as literals and as arguments of the functions to whole numbers. A literal
stands for its integer below 2^63 and for the nearest double from there on, so that a filter cannot
tell apart such integers with one double. The functions work on doubles as well, and keep integers
below 2^53 only.
-/

namespace RecordQuery

open Grammar

-----------------------------------------------------------------------------------------
-- Integer literals
-----------------------------------------------------------------------------------------

/-- The number that an integer in a filter text stands for: the integer itself, if it fits a signed
word of 64 bits, or else the nearest double.
-/
def Number.ofLiteral (n : Int) (inRange : InRange n) : Number :=
  if n < twoPow 63 then .int n inRange else .double (.ofInt n (natAbs_le_of_inRange inRange))

/-- The text that compares a property with an integer, written with decimal digits. -/
def Filter.integerComparison (path : PropertyPath) (operator : Comparison) (n : Int) : String :=
  path.text ++ " " ++ operator.name ++ " "
    ++ String.ofList ((if n < 0 then ['-'] else []) ++ Text.digitsOf n.natAbs)

/-- A numeral of digits alone stands for its integer as a literal. -/
theorem Numeral.denotes_ofLiteral {numeral : Numeral} (integral : numeral.isIntegral)
    (inRange : Number.InRange numeral.toInt)
    : Denotes numeral (.ofLiteral numeral.toInt inRange) := by
  unfold Number.ofLiteral
  split
  · next small => exact .int ⟨integral, inRange.1, small⟩ inRange
  · next large =>
      have fits := Number.natAbs_le_of_inRange inRange
      have positive : numeral.negative = false := by
        refine Bool.eq_false_iff.mpr fun negative => large ?_
        have nonpositive : numeral.toInt ≤ 0 := by simp [toInt, negative]
        exact Int.lt_of_le_of_lt nonpositive (by decide)
      have value : numeral.toInt = Text.digitsValue numeral.whole := by simp [toInt, positive]
      have read : numeral.toDecimal?
          = some ⟨numeral.negative, Text.digitsValue numeral.whole, 0⟩ := by
        simp only [isIntegral, Bool.and_eq_true, Option.isNone_iff_eq_none] at integral
        simp [toDecimal?, integral]
      have rounds : Decimal.nearestUnits (Text.digitsValue numeral.whole) 0
          = (Binary64.ofInt numeral.toInt fits).units := by
        simp [Decimal.nearestUnits, Decimal.upperPower, Decimal.lowerPower, Binary64.ofInt, value]
      have sign : numeral.negative = (Binary64.ofInt numeral.toInt fits).negative := by
        simp [Binary64.ofInt, positive, value]
      exact .double (fun small => large small.2.2) read (Decimal.toBinary64?_eq_some sign rounds)

/-- An integer in decimal digits is spelled as the literal that it stands for. -/
theorem Grammar.spellsOperand_integer {nesting : Nat} (n : Int) (inRange : Number.InRange n)
    : SpellsOperand nesting (.literal (.number (.ofLiteral n inRange)))
        ((Number.int n inRange).text ++ []) [] := by
  obtain ⟨numeral, text, written, complete, integral, rfl⟩ := Number.exists_numeral_int n inRange
  obtain ⟨c, first, starts⟩ := written.exists_head complete.nonempty
  have solid : Text.isBlank c = false := by
    rcases starts with digit | rfl
    · exact Text.isBlank_of_isWordChar (Text.isWordChar_of_isDigit digit)
    · decide
  have untyped : [] ∈ typeSuffixes := by decide
  refine .number numeral written complete.nonempty (numeral.denotes_ofLiteral integral inRange)
    untyped ?_ (Text.stops_nil _)
  rw [← text, afterBlanks_append first solid]
  rfl

theorem Filter.parse_integerComparison {path : PropertyPath} (isPath : IsOperandPath path)
    (operator : Comparison) (n : Int) (inRange : Number.InRange n)
    : Filter.parse (integerComparison path operator n) = .ok
        (.comparison operator (.property path) (.literal (.number (.ofLiteral n inRange)))) := by
  have text : (integerComparison path operator n).toList
      = path.text.toList
        ++ ' ' :: (operator.name.toList ++ ' ' :: ((Number.int n inRange).text ++ [])) := by
    have space : " ".toList = [' '] := by decide
    simp [integerComparison, Number.text, space]
  have spelled : SpellsCondition Scan.maxNesting _ _ [] := spellsCondition_of_operands operator
    (spellsOperand_chars (.property isPath)) (spellsOperand_integer n inRange)
  rw [parse_eq_ok_iff_run, Scan.run_filter_eq_ok]
  refine ⟨⟨[], ?_, rfl⟩, Nat.zero_le _⟩
  rw [text]
  exact .one (.one spelled)

/-- How an integer compares with a literal: exactly, but for a literal from 2^63 on that has the
same nearest double.
-/
theorem Number.compare_ofLiteral {m n : Int} (inRange : InRange m) (inRange' : InRange n)
    : let alike := (twoPow 63 : Int) ≤ n ∧ (int m inRange).toBinary64 = (int n inRange').toBinary64
      ((int m inRange).compare (ofLiteral n inRange') = .eq ↔ m = n ∨ alike)
      ∧ ((int m inRange).compare (ofLiteral n inRange') = .lt ↔ m < n ∧ ¬ alike) := by
  intro alike
  unfold ofLiteral
  split
  · next small =>
      have apart : ¬ alike := fun same => Int.not_lt.mpr same.1 small
      simp [compare, Int.compare_eq_lt, apart]
  · next large =>
      obtain ⟨equal, less⟩ := compare_double_ofInt inRange (natAbs_le_of_inRange inRange')
      have same : alike ↔ Binary64.ofInt m (natAbs_le_of_inRange inRange)
          = .ofInt n (natAbs_le_of_inRange inRange') := and_iff_right (Int.not_lt.mp large)
      rw [equal, less, same]
      refine ⟨⟨.inr, ?_⟩, .rfl⟩
      rintro (rfl | found)
      · rfl
      · exact found

/-- A filter that compares a property with an integer compares integers exactly, as long as the
literal is below 2^63. From there on it takes an integer with the same nearest double for equal.
-/
theorem Filter.accepts_integerComparison {path : PropertyPath} (isPath : IsOperandPath path)
    (n : Int) (inRange : Number.InRange n)
    : ∃ equal less, parse (integerComparison path .eq n) = .ok equal
        ∧ parse (integerComparison path .lt n) = .ok less
        ∧ ∀ record m (inRange' : Number.InRange m),
            path.resolve record = some (.number (.int m inRange'))
            → let alike := (twoPow 63 : Int) ≤ n
                ∧ (Number.int m inRange').toBinary64 = (Number.int n inRange).toBinary64
              equal.accepts record = .ok (decide (m = n ∨ alike))
              ∧ less.accepts record = .ok (decide (m < n ∧ ¬ alike)) := by
  refine ⟨_, _, parse_integerComparison isPath .eq n inRange,
    parse_integerComparison isPath .lt n inRange, fun record m inRange' found => ?_⟩
  obtain ⟨equal, less⟩ := Number.compare_ofLiteral inRange' inRange
  have evaluated (operator : Comparison) (value : Json)
      : (comparison operator (.property path) (.literal value)).accepts record
        = .ok (operator.holds (some (.number (.int m inRange'))) (some value)) := by
    rw [← found]
    rfl
  have ordered : partialOrder (some (.number (.int m inRange')))
      (some (.number (.ofLiteral n inRange)))
      = some ((Number.int m inRange').compare (.ofLiteral n inRange)) := rfl
  rw [evaluated, evaluated, holds_of_partialOrder ordered, holds_of_partialOrder ordered]
  simp only [← equal, ← less]
  cases (Number.int m inRange').compare (.ofLiteral n inRange) <;> exact ⟨rfl, rfl⟩

theorem PropertyPath.resolve_field {path : PropertyPath} {name : String}
    (names : path.names = [name]) (value : Json)
    : path.resolve (.object [(name, value)]) = some value := by
  simp [resolve, names, Json.field?]

/-- The greatest signed integer is compared exactly, the greatest unsigned one as 2^64. -/
theorem Filter.accepts_integerComparison_greatest
    : let path : PropertyPath := ⟨"p", rfl, by decide⟩
      let record (n : UInt64) := Json.object [("p", .number (.ofUInt64 n))]
      IsOperandPath path
      ∧ (∃ equal less, parse "p eq 9223372036854775807" = .ok equal
        ∧ parse "p lt 9223372036854775807" = .ok less
        ∧ equal.accepts (record 9223372036854775808) = .ok false
        ∧ less.accepts (record 9223372036854775806) = .ok true)
      ∧ ∃ equal less, parse "p eq 18446744073709551615" = .ok equal
        ∧ parse "p lt 18446744073709551615" = .ok less
        ∧ equal.accepts (record 18446744073709551614) = .ok true
        ∧ less.accepts (record 18446744073709551614) = .ok false := by
  intro path record
  have isPath : IsOperandPath path := by decide +kernel
  have found (n : UInt64) : path.resolve (record n) = some (.number (.ofUInt64 n)) :=
    PropertyPath.resolve_field (by decide +kernel) _
  obtain ⟨equal, less, readEqual, readLess, accepts⟩ :=
    accepts_integerComparison isPath 9223372036854775807 (by decide)
  obtain ⟨equal', less', readEqual', readLess', accepts'⟩ :=
    accepts_integerComparison isPath 18446744073709551615 (by decide)
  refine ⟨isPath, ⟨equal, less, readEqual, readLess, ?_, ?_⟩,
    equal', less', readEqual', readLess', ?_, ?_⟩
  · exact (accepts _ _ _ (found 9223372036854775808)).1.trans (congrArg _ (by decide +kernel))
  · exact (accepts _ _ _ (found 9223372036854775806)).2.trans (congrArg _ (by decide +kernel))
  · exact (accepts' _ _ _ (found 18446744073709551614)).1.trans (congrArg _ (by decide +kernel))
  · exact (accepts' _ _ _ (found 18446744073709551614)).2.trans (congrArg _ (by decide +kernel))

/-- The integer before 2^63 is taken for 2^63. -/
theorem Filter.not_accepts_integerComparison
    : ¬ ∀ (path : PropertyPath) (n : Int), IsOperandPath path → Number.InRange n
        → ∃ equal less, parse (integerComparison path .eq n) = .ok equal
          ∧ parse (integerComparison path .lt n) = .ok less
          ∧ ∀ record m (inRange : Number.InRange m),
              path.resolve record = some (.number (.int m inRange))
              → (equal.accepts record = .ok true ↔ m = n)
                ∧ (less.accepts record = .ok true ↔ m < n) := by
  intro claimed
  let path : PropertyPath := ⟨"p", rfl, by decide⟩
  let record := Json.object [("p", .number (.int 9223372036854775807 (by decide)))]
  have isPath : IsOperandPath path := by decide +kernel
  obtain ⟨equal, _, read, _, accepts⟩ := claimed path 9223372036854775808 isPath (by decide)
  have accepted : (parse (integerComparison path .eq 9223372036854775808)).toOption.any
      (fun filter => (filter.accepts record).toOption == some true) = true := by
    decide +kernel
  have held : equal.accepts record = .ok true := by
    rw [read] at accepted
    simp only [Except.toOption, Option.any_some, beq_iff_eq] at accepted
    cases outcome : equal.accepts record <;> simp_all
  have found : path.resolve record = some (.number (.int 9223372036854775807 (by decide))) :=
    PropertyPath.resolve_field (by decide +kernel) _
  exact absurd ((accepts _ _ _ found).1.mp held) (by decide)

-----------------------------------------------------------------------------------------
-- Functions to whole numbers
-----------------------------------------------------------------------------------------

/-- The functions whose values are whole numbers near their argument. -/
def UnaryFunction.wholeFunctions : List UnaryFunction := [.round, .floor, .ceiling]

theorem Operand.eval_wholeFunction {record : Json} {operand : Operand} {number : Number}
    (value : operand.eval record = .ok (some (.number number))) {function : UnaryFunction}
    (member : function ∈ UnaryFunction.wholeFunctions)
    : ∃ nearby, (Operand.unary function operand).eval record
        = .ok (some (.number (number.toWhole nearby))) := by
  simp only [UnaryFunction.wholeFunctions, List.mem_cons, List.not_mem_nil, or_false] at member
  rcases member with rfl | rfl | rfl
  · exact ⟨Binary64.round, by rw [eval, value]; rfl⟩
  · exact ⟨Binary64.floor, by rw [eval, value]; rfl⟩
  · exact ⟨Binary64.ceiling, by rw [eval, value]; rfl⟩

/-- Rounding an integer, down, up or to the nearest whole number, gives the integer itself if it is
below 2^53, and the nearest double of any other integer. It never fails.
-/
theorem Operand.eval_wholeFunction_int (record : Json) (operand : Operand) (n : Int)
    (inRange : Number.InRange n)
    (value : operand.eval record = .ok (some (.number (.int n inRange))))
    : ∀ function ∈ UnaryFunction.wholeFunctions,
        (Operand.unary function operand).eval record
        = .ok (some (.number (if n.natAbs < twoPow 53 then .int n inRange
          else .double (.ofInt n (Number.natAbs_le_of_inRange inRange))))) := by
  intro function member
  obtain ⟨nearby, rounded⟩ := eval_wholeFunction value member
  rw [rounded, Number.toWhole_int]

/-- Below 2^53 an integer is kept; from there on it is a double, and an odd one is another number.
-/
theorem Operand.eval_wholeFunction_int_limit
    : let below := Json.number (.int (-9007199254740991) (by decide))
      let odd := Json.number (.int 9007199254740993 (by decide))
      let even := Json.number (.double (.ofInt 9007199254740992 (by decide)))
      (Operand.literal below).eval .null = .ok (some below)
      ∧ (Operand.unary .floor (.literal below)).eval .null = .ok (some below)
      ∧ (Operand.literal odd).eval .null = .ok (some odd)
      ∧ (Operand.unary .round (.literal odd)).eval .null = .ok (some even) := by
  intro below odd even
  have kept := eval_wholeFunction_int .null (.literal below) (-9007199254740991) (by decide) rfl
  have rounded := eval_wholeFunction_int .null (.literal odd) 9007199254740993 (by decide) rfl
  have same : Binary64.ofInt 9007199254740993 (by decide)
      = Binary64.ofInt 9007199254740992 (by decide) := by
    decide +kernel
  refine ⟨rfl, ?_, rfl, ?_⟩
  · rw [kept .floor (by decide), if_pos (by decide)]
  · rw [rounded .round (by decide), if_neg (by decide), same]

/-- The odd integer behind 2^53 is not kept. -/
theorem Operand.not_eval_wholeFunction_int
    : ¬ ∀ (record : Json) (operand : Operand) (n : Int) (inRange : Number.InRange n),
        operand.eval record = .ok (some (.number (.int n inRange)))
        → ∀ function ∈ UnaryFunction.wholeFunctions,
            (Operand.unary function operand).eval record
            = .ok (some (.number (.int n inRange))) := by
  intro claimed
  let odd := Number.int 9007199254740993 (by decide)
  have kept : Except.ok (some (.number odd.round)) = Except.ok (some (Json.number odd)) :=
    claimed .null (.literal (.number odd)) 9007199254740993 (by decide) rfl .round (by decide)
  have same : odd.round = odd := by simpa using kept
  revert same
  decide +kernel

end RecordQuery
