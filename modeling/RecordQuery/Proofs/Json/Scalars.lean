import RecordQuery.Json.Printer
import RecordQuery.Json.Reader
import RecordQuery.Proofs.Number.DecimalTexts

/-! Strings and integers are read back from their JSON texts. Every escape stands for the character
that it was written for, and a number ends where a value can end. Doubles are read in steps that are
rounded, so a double may be read as another one; those that are not are read back too.
-/

namespace RecordQuery

/-- A number is read back: its text is read as it. -/
def Number.ReadsBack (n : Number) : Prop :=
  Json.number? n.text = some (n, [])

namespace Json

/-- A text that a value can end in front of: the end, a comma or a closing bracket. -/
def Closes (rest : List Char) : Prop :=
  ∀ c ∈ rest.head?, c = ',' ∨ c = ']' ∨ c = '\x7d'

theorem closes_nil : Closes [] :=
  fun _ none => absurd none (by simp)

-----------------------------------------------------------------------------------------
-- Strings
-----------------------------------------------------------------------------------------

theorem hexDigit?_digitChar : ∀ digit < 16, Text.hexDigit? (Nat.digitChar digit) = some digit := by
  decide

/-- The four digits of a control character stand for it. -/
theorem escapedChar?_control {c : Char} (control : c.toNat < 0x20) (text : List Char)
    : escapedChar?
        ('0' :: '0' :: Nat.digitChar (c.toNat / 16) :: Nat.digitChar (c.toNat % 16) :: text)
      = some (c, text) := by
  have high := hexDigit?_digitChar (c.toNat / 16) (by omega)
  have low := hexDigit?_digitChar (c.toNat % 16) (by omega)
  have zero : Text.hexDigit? '0' = some 0 := rfl
  have unit : hexUnit?
      ('0' :: '0' :: Nat.digitChar (c.toNat / 16) :: Nat.digitChar (c.toNat % 16) :: text)
      = some (c.toNat, text) := by
    have value : ((0 * 16 + 0) * 16 + c.toNat / 16) * 16 + c.toNat % 16 = c.toNat := by omega
    rw [hexUnit?, zero, high, low]
    exact congrArg (fun n => some (n, text)) value
  rw [escapedChar?, unit]
  dsimp only [bind, Option.bind]
  rw [if_pos (by omega), Char.ofNat_toNat]

/-- A letter behind a backslash stands for its character. -/
theorem stringBody?_short {letter c : Char} (special : letter ≠ 'u')
    (found : shortEscape? letter = some c) (steps : Nat) (text : List Char)
    : stringBody? (steps + 1) ('\\' :: letter :: text)
      = (stringBody? steps text).map (fun (body, after) => (c :: body, after)) := by
  rw [stringBody?, if_neg (by decide), if_pos rfl]
  dsimp only
  rw [if_neg special, found]
  simp only [Option.map_some, Option.bind_eq_bind, Option.bind_some]
  cases stringBody? steps text <;> rfl

/-- One step reads a character from what was written for it. -/
theorem stringBody?_escapeChar (c : Char) (steps : Nat) (text : List Char)
    : stringBody? (steps + 1) (escapeChar c ++ text)
      = (stringBody? steps text).map (fun (body, after) => (c :: body, after)) := by
  unfold escapeChar
  split
  · next quote =>
      subst quote
      exact stringBody?_short (by decide) rfl steps text
  next noQuote =>
  split
  · next backslash =>
      subst backslash
      exact stringBody?_short (by decide) rfl steps text
  next noBackslash =>
  split
  · next backspace =>
      subst backspace
      exact stringBody?_short (by decide) rfl steps text
  split
  · next tab =>
      subst tab
      exact stringBody?_short (by decide) rfl steps text
  split
  · next newLine =>
      subst newLine
      exact stringBody?_short (by decide) rfl steps text
  split
  · next pageBreak =>
      subst pageBreak
      exact stringBody?_short (by decide) rfl steps text
  split
  · next carriageReturn =>
      subst carriageReturn
      exact stringBody?_short (by decide) rfl steps text
  split
  · next control =>
      have decoded := escapedChar?_control control text
      simp only [List.cons_append, List.nil_append]
      rw [stringBody?, if_neg (by decide), if_pos rfl]
      dsimp only
      rw [if_pos rfl, decoded]
      simp only [Option.bind_eq_bind, Option.bind_some]
      cases stringBody? steps text <;> rfl
  · next printed =>
      rw [List.singleton_append, stringBody?.eq_def]
      dsimp only
      rw [if_neg noQuote, if_neg noBackslash, if_neg printed]
      cases stringBody? steps text <;> rfl

theorem length_escapeChar_pos (c : Char) : 0 < (escapeChar c).length := by
  unfold escapeChar
  repeat' split
  all_goals exact Nat.succ_pos _

/-- A string is read back from its escaped characters, by induction on the string. -/
theorem stringBody?_flatMap {steps : Nat} {s rest : List Char}
    (enough : (s.flatMap escapeChar ++ '"' :: rest).length ≤ steps)
    : stringBody? steps (s.flatMap escapeChar ++ '"' :: rest) = some (s, rest) := by
  induction s generalizing steps with
  | nil =>
      obtain ⟨steps, rfl⟩ : ∃ left, steps = left + 1 := Nat.exists_eq_add_one.mpr (by
        simp at enough
        omega)
      rfl
  | cons c s ih =>
      have pos := length_escapeChar_pos c
      rw [List.flatMap_cons, List.append_assoc, List.length_append] at enough
      obtain ⟨steps, rfl⟩ : ∃ left, steps = left + 1 := Nat.exists_eq_add_one.mpr (by omega)
      rw [List.flatMap_cons, List.append_assoc, stringBody?_escapeChar, ih (by omega)]
      rfl

/-- A string is read back from its text. -/
theorem quoted?_quote {steps : Nat} {s : String} {rest : List Char}
    (enough : (quote s ++ rest).length ≤ steps)
    : quoted? steps (quote s ++ rest) = some (s, rest) := by
  have text : quote s ++ rest = '"' :: (s.toList.flatMap escapeChar ++ '"' :: rest) := by
    rw [quote]
    simp
  rw [text, List.length_cons] at enough
  rw [text, quoted?, stringBody?_flatMap (by omega)]
  simp

-----------------------------------------------------------------------------------------
-- Numbers
-----------------------------------------------------------------------------------------

/-- A numeral can end where a value can. -/
theorem Closes.endsBefore {rest : List Char} (closes : Closes rest) (n : Numeral)
    : n.EndsBefore rest := by
  have other {c : Char} (none : c ≠ ',' ∧ c ≠ ']' ∧ c ≠ '\x7d') : rest.head? ≠ some c := by
    intro first
    rcases closes c first with same | same | same
    · exact none.1 same
    · exact none.2.1 same
    · exact none.2.2 same
  constructor
  case digit =>
    intro c first
    rcases closes c first with rfl | rfl | rfl
    · rfl
    · rfl
    · rfl
  case point => exact fun _ _ => other (by decide)
  case mark => exact fun _ => ⟨other (by decide), other (by decide)⟩
  case sign => exact fun _ _ _ _ => ⟨other (by decide), other (by decide)⟩

theorem isComplete_of_isComplete {n : Numeral} (complete : n.IsComplete) : isComplete n = true := by
  have whole : n.whole.length = 1 ∨ n.whole.head? ≠ some '0' := by
    rcases complete.whole with zero | ⟨_, first⟩
    · exact .inl (by rw [zero]; rfl)
    · exact .inr first
  have exponent : n.exponent.all (fun e => !e.digits.isEmpty) = true := by
    cases found : n.exponent with
    | none => rfl
    | some e => simpa using complete.exponent e found
  simp [isComplete, complete.nonempty, complete.fraction, exponent, whole]

/-- The text of a number is a numeral, which decides what is read wherever a value can end. -/
theorem exists_numeral_text (n : Number)
    : ∃ numeral : Numeral, numeral.text = n.text ∧ numeral.IsWritten ∧ numeral.IsComplete
        ∧ ∀ rest, Closes rest → number? (n.text ++ rest) = (numberOf? numeral).map (·, rest) := by
  have reads {numeral : Numeral} (text : numeral.text = n.text) (written : numeral.IsWritten)
      (complete : numeral.IsComplete) (rest : List Char) (closes : Closes rest)
      : number? (n.text ++ rest) = (numberOf? numeral).map (·, rest) := by
    rw [← text, number?, written.scan_append complete.nonempty (closes.endsBefore numeral)]
    exact if_pos (isComplete_of_isComplete complete)
  cases n with
  | int value inRange =>
      obtain ⟨numeral, text, written, complete, _⟩ := Number.exists_numeral_int value inRange
      exact ⟨numeral, text, written, complete, reads text written complete⟩
  | double x =>
      obtain ⟨numeral, text, written, complete, _⟩ := Number.exists_numeral_double x
      exact ⟨numeral, text, written, complete, reads text written complete⟩

/-- A number that is read back from its text is read back in front of what follows a value. -/
theorem number?_text {n : Number} (back : n.ReadsBack) {rest : List Char} (closes : Closes rest)
    : number? (n.text ++ rest) = some (n, rest) := by
  obtain ⟨numeral, _, _, _, reads⟩ := exists_numeral_text n
  have alone := reads [] closes_nil
  rw [List.append_nil, back] at alone
  obtain ⟨found, denoted, same⟩ := Option.map_eq_some_iff.mp alone.symm
  cases same
  rw [reads rest closes, denoted]
  rfl

/-- An integer is read back. -/
theorem readsBack_int (value : Int) (inRange : Number.InRange value)
    : (Number.int value inRange).ReadsBack := by
  obtain ⟨numeral, text, written, complete, integral, same⟩ :=
    Number.exists_numeral_int value inRange
  -- a zero is written without a sign
  have unsigned : (numeral.negative && numeral.toInt == 0) = false := by
    cases negative : numeral.negative with
    | false => rfl
    | true =>
        have nonzero : value ≠ 0 := by
          rintro rfl
          rw [Numeral.text_eq, negative] at text
          have first := congrArg List.head? text
          simp [Number.text, Text.digitsOf] at first
        simpa [same] using nonzero
  have denoted : numberOf? numeral = some (.int value inRange) := by
    rw [numberOf?, integral, unsigned, same, Number.ofInt?, dif_pos inRange]
    rfl
  have scanned := written.scan_append complete.nonempty (closes_nil.endsBefore numeral)
  rw [List.append_nil] at scanned
  rw [Number.ReadsBack, ← text, number?, scanned]
  dsimp only
  rw [if_pos (isComplete_of_isComplete complete), denoted]
  rfl

end Json

end RecordQuery
