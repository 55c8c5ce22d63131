import RecordQuery.Number.Basic
import RecordQuery.Proofs.Number.Numerals
import RecordQuery.Proofs.Number.ShortestDecimal

/-! The text of a number is a numeral for it. Integers are written with their digits alone, doubles
with a point or an exponent. Where the point stands among the digits, and how many zeros are added,
the exponent makes up for, so that the numeral rounds to what the decimal does.
-/

namespace RecordQuery

/-- A numeral for a decimal: it has all its digits and a point or an exponent, and rounds to the
same magnitude.
-/
structure Numeral.Writes (numeral : Numeral) (d : Decimal) : Prop where
  isWritten : numeral.IsWritten
  isComplete : numeral.IsComplete
  marked : numeral.isIntegral = false
  reads : ∃ read, numeral.toDecimal? = some read ∧ read.negative = d.negative
    ∧ Decimal.nearestUnits read.digits read.exponent = Decimal.nearestUnits d.digits d.exponent

namespace Decimal

def signText (d : Decimal) : List Char :=
  if d.negative then ['-'] else []

-----------------------------------------------------------------------------------------
-- Texts of decimals
-----------------------------------------------------------------------------------------

/-- Digits on both sides of a point are a numeral. -/
theorem exists_writes_point {d : Decimal} (whole fraction : List Char) (count : Nat)
    (digits : ∀ c ∈ whole ++ fraction, Text.isDigit c = true)
    (leading : whole = ['0'] ∨ whole ≠ [] ∧ whole.head? ≠ some '0') (behind : fraction ≠ [])
    (value : Text.digitsValue (whole ++ fraction) = d.digits * 10 ^ count)
    (exponent : -(fraction.length : Int) = d.exponent - count)
    : ∃ numeral : Numeral, numeral.Writes d
        ∧ numeral.text = d.signText ++ (whole ++ '.' :: fraction) := by
  refine ⟨⟨d.negative, whole, some fraction, none⟩,
    ⟨⟨?_, ?_, ?_, ?_, ?_⟩, ⟨leading, by simpa using behind, by simp⟩, rfl, ?_⟩, ?_⟩
  · exact fun c member => digits c (List.mem_append_left _ member)
  · intro row same c member
    cases same
    exact digits c (List.mem_append_right _ member)
  · simp
  · simp
  · simp
  · refine ⟨⟨d.negative, d.digits * 10 ^ count, d.exponent - count⟩, ?_, rfl, ?_⟩
    · simp [Numeral.toDecimal?, value, exponent]
    · exact nearestUnits_zeros d.digits d.exponent count
  · simp [Numeral.text, signText]

/-- Digits with an exponent behind them are a numeral. -/
theorem exists_writes_exponent {d : Decimal} {first : Char} {others : List Char} {place : Int}
    (row : Text.digitsOf d.digits = first :: others) (exponent : place - others.length = d.exponent)
    : ∃ numeral : Numeral, numeral.Writes d
        ∧ numeral.text = d.signText ++ scientific Number.layout (first :: others) place := by
  have isDigit : ∀ c ∈ first :: others, Text.isDigit c = true := by
    intro c member
    exact Text.isDigit_of_mem_digitsOf (row ▸ member)
  have value : Text.digitsValue (first :: others) = d.digits := by
    rw [← row, Text.digitsValue_digitsOf]
  refine ⟨⟨d.negative, [first], if others = [] then none else some others,
    some ⟨'e', some (if place < 0 then '-' else '+'), Text.digitsOf place.natAbs⟩⟩,
    ⟨⟨?_, ?_, ?_, ?_, ?_⟩, ⟨?_, ?_, ?_⟩, by simp [Numeral.isIntegral], ?_⟩, ?_⟩
  · intro c member
    exact isDigit c (List.mem_cons.mpr (.inl (List.mem_singleton.mp member)))
  · intro row same c member
    dsimp only at same
    split at same
    · cases same
    · cases same
      exact isDigit c (List.mem_cons_of_mem first member)
  · intro e same
    cases same
    exact .inl rfl
  · intro e same c member
    cases same
    cases member
    split
    · exact .inr rfl
    · exact .inl rfl
  · intro e same c member
    cases same
    exact Text.isDigit_of_mem_digitsOf member
  · by_cases zero : first = '0'
    · exact .inl (by rw [zero])
    · exact .inr ⟨List.cons_ne_nil _ _, by simpa using zero⟩
  · dsimp only
    split
    · exact Option.some_ne_none _ ∘ Eq.symm
    · next some => simpa using some
  · intro e same
    cases same
    exact Text.digitsOf_ne_nil _
  · refine ⟨d, ?_, rfl, rfl⟩
    have fraction : (if others = [] then none else some others).getD [] = others := by
      split
      · next none => simp [none]
      · rfl
    have power : (⟨'e', some (if place < 0 then '-' else '+'), Text.digitsOf place.natAbs⟩
        : Numeral.Exponent).value = place := by
      simp only [Numeral.Exponent.value, Text.digitsValue_digitsOf]
      split
      · rw [if_pos rfl]
        omega
      · rw [if_neg (by decide)]
        omega
    simp only [Numeral.toDecimal?, fraction, power, List.isEmpty_iff, Text.digitsOf_ne_nil,
      ↓reduceIte, List.singleton_append, value, exponent]
  · have fraction : (if (first :: others).length ≤ 1 then [] else '.' :: (first :: others).drop 1)
        = Numeral.fractionText (if others = [] then none else some others) := by
      cases others with
      | nil => rfl
      | cons c rest => rfl
    have sign : (if place < 0 then ['-'] else Number.layout.plusSign)
        = [if place < 0 then '-' else '+'] := by
      split
      · rfl
      · rfl
    rw [Numeral.text_eq, scientific, fraction, sign]
    simp [signText, Numeral.exponentText, Numeral.Exponent.text, Number.layout]

/-- Positional texts are numerals, by where the point stands among the digits. -/
theorem exists_writes_positional {d : Decimal} (nonzero : d.digits ≠ 0)
    : ∃ numeral : Numeral, numeral.Writes d
        ∧ numeral.text = d.signText ++ positional (Text.digitsOf d.digits) d.order := by
  have isDigit : ∀ c ∈ Text.digitsOf d.digits, Text.isDigit c = true :=
    fun c member => Text.isDigit_of_mem_digitsOf member
  have isZero : ∀ count, ∀ c ∈ List.replicate count '0', Text.isDigit c = true := by
    intro count c member
    rw [List.eq_of_mem_replicate member]
    decide
  have nonempty := Text.digitsOf_ne_nil d.digits
  have value := Text.digitsValue_digitsOf d.digits
  have first := Text.head?_digitsOf_ne nonzero
  unfold positional order
  generalize Text.digitsOf d.digits = digits at isDigit nonempty value first ⊢
  split
  · next low =>
      -- all digits stand behind the point, with zeros in front of them
      generalize shift : (-(digits.length + d.exponent)).toNat = count
      have chars : ∀ c ∈ ['0'] ++ (List.replicate count '0' ++ digits), Text.isDigit c = true := by
        intro c member
        rcases List.mem_append.mp member with first | member
        · exact isZero 1 c first
        · exact (List.mem_append.mp member).elim (isZero _ c) (isDigit c)
      have zeros : Text.digitsValue (['0'] ++ (List.replicate count '0' ++ digits))
          = d.digits * 10 ^ 0 := by
        rw [← List.append_assoc, ← List.replicate_one, List.replicate_append_replicate,
          Text.digitsValue_zeros_append, value, Nat.pow_zero, Nat.mul_one]
      obtain ⟨numeral, writes, text⟩ := exists_writes_point _ _ _ chars (.inl rfl)
        (by simp [nonempty]) zeros (by
          rw [List.length_append, List.length_replicate]
          omega)
      exact ⟨numeral, writes, by simpa using text⟩
  · split
    · next high short =>
        -- all digits stand in front of the point, with zeros behind them
        generalize shift : (digits.length + d.exponent).toNat - digits.length = count
        have chars : ∀ c ∈ (digits ++ List.replicate count '0') ++ ['0'],
            Text.isDigit c = true := by
          intro c member
          rcases List.mem_append.mp member with member | last
          · exact (List.mem_append.mp member).elim (isDigit c) (isZero _ c)
          · exact isZero 1 c last
        have zeros : Text.digitsValue ((digits ++ List.replicate count '0') ++ ['0'])
            = d.digits * 10 ^ (count + 1) := by
          rw [List.append_assoc, ← List.replicate_one, List.replicate_append_replicate,
            Text.digitsValue_append_zeros, value]
        have leading : (digits ++ List.replicate count '0').head? ≠ some '0' := by
          cases digits with
          | nil => exact absurd rfl nonempty
          | cons c rest => exact first
        obtain ⟨numeral, writes, text⟩ := exists_writes_point _ _ _ chars
          (.inr ⟨by simp [nonempty], leading⟩) (List.cons_ne_nil _ _) zeros (by
            rw [List.length_singleton]
            omega)
        exact ⟨numeral, writes, by simpa using text⟩
    · next high long =>
        have kept := List.take_append_drop (digits.length + d.exponent).toNat digits
        have parts : Text.digitsValue (digits.take (digits.length + d.exponent).toNat
            ++ digits.drop (digits.length + d.exponent).toNat) = d.digits * 10 ^ 0 := by
          rw [kept, value, Nat.pow_zero, Nat.mul_one]
        have chars := kept.symm ▸ isDigit
        have before : digits.take (digits.length + d.exponent).toNat ≠ [] := by
          rw [ne_eq, List.take_eq_nil_iff, not_or]
          exact ⟨by omega, nonempty⟩
        have leading : (digits.take (digits.length + d.exponent).toNat).head? ≠ some '0' := by
          rwa [List.head?_take, if_neg (by omega)]
        have behind : digits.drop (digits.length + d.exponent).toNat ≠ [] := by
          rw [ne_eq, List.drop_eq_nil_iff]
          omega
        obtain ⟨numeral, writes, text⟩ := exists_writes_point _ _ _ chars (.inr ⟨before, leading⟩)
          behind parts (by
            rw [List.length_drop]
            omega)
        exact ⟨numeral, writes, by simpa using text⟩

/-- What is written for a decimal is a numeral for it. A zero has no exponent to make up for. -/
theorem exists_writes (d : Decimal)
    : ∃ numeral : Numeral, numeral.Writes d ∧ numeral.text = d.write Number.layout := by
  unfold write
  dsimp only
  split
  · next zero =>
      refine ⟨⟨d.negative, ['0'], some ['0'], none⟩,
        ⟨⟨?_, ?_, ?_, ?_, ?_⟩, ⟨.inl rfl, by simp, by simp⟩, rfl, ?_⟩, ?_⟩
      · intro c member
        rw [List.mem_singleton.mp member]
        decide
      · intro row same c member
        cases same
        rw [List.mem_singleton.mp member]
        decide
      · simp
      · simp
      · simp
      · exact ⟨⟨d.negative, 0, -1⟩, rfl, rfl, by rw [zero, nearestUnits_zero, nearestUnits_zero]⟩
      · simp [Numeral.text]
  · next nonzero =>
      split
      · obtain ⟨numeral, writes, text⟩ := exists_writes_positional nonzero
        exact ⟨numeral, writes, by rw [text, signText, Int.sub_add_cancel]⟩
      · obtain ⟨first, others, row⟩ := List.exists_cons_of_ne_nil (Text.digitsOf_ne_nil d.digits)
        have count := congrArg List.length row
        rw [List.length_cons] at count
        have exponent : d.order - 1 - others.length = d.exponent := by
          unfold order
          omega
        obtain ⟨numeral, writes, text⟩ := exists_writes_exponent row exponent
        exact ⟨numeral, writes, by rw [text, signText, row]⟩

end Decimal

namespace Number

/-- The text of a double is a numeral that is read as that double. -/
theorem exists_numeral_double (x : Binary64)
    : ∃ numeral : Numeral, numeral.text = (Number.double x).text ∧ numeral.IsWritten
        ∧ numeral.IsComplete ∧ numeral.isIntegral = false
        ∧ ∃ read, numeral.toDecimal? = some read ∧ read.toBinary64? = some x := by
  obtain ⟨sign, rounds⟩ := Decimal.nearestUnits_ofBinary64 x
  obtain ⟨numeral, writes, text⟩ := Decimal.exists_writes (Decimal.ofBinary64 x)
  obtain ⟨read, found, negative, same⟩ := writes.reads
  exact ⟨numeral, text, writes.isWritten, writes.isComplete, writes.marked, read, found,
    Decimal.toBinary64?_eq_some (negative.trans sign) (same.trans rounds)⟩

/-- The text of an integer is a numeral of digits alone that stands for it. -/
theorem exists_numeral_int (n : Int) (inRange : InRange n)
    : ∃ numeral : Numeral, numeral.text = (Number.int n inRange).text ∧ numeral.IsWritten
        ∧ numeral.IsComplete ∧ numeral.isIntegral = true ∧ numeral.toInt = n := by
  refine ⟨⟨decide (n < 0), Text.digitsOf n.natAbs, none, none⟩, ?_, ⟨?_, ?_, ?_, ?_, ?_⟩,
    ⟨?_, by simp, by simp⟩, rfl, ?_⟩
  · simp [Numeral.text, Number.text]
  · exact fun c member => Text.isDigit_of_mem_digitsOf member
  · simp
  · simp
  · simp
  · simp
  · by_cases zero : n.natAbs = 0
    · exact .inl (by rw [zero]; rfl)
    · exact .inr ⟨Text.digitsOf_ne_nil _, Text.head?_digitsOf_ne zero⟩
  · simp only [Numeral.toInt, decide_eq_true_eq, Text.digitsValue_digitsOf]
    split <;> omega

end Number

end RecordQuery
