import RecordQuery.Filter.Printer
import RecordQuery.Proofs.Filter.Operands
import RecordQuery.Proofs.Number.DecimalTexts

/-! Printed operands are spelled by the grammar. Every operand that some text spells is writable
with as many levels of parentheses, and the text of a writable operand spells it, in front of a
space, a comma, a closing parenthesis or the end.
-/

namespace RecordQuery

open Grammar

-----------------------------------------------------------------------------------------
-- Operands that some text spells
-----------------------------------------------------------------------------------------

/-- The values that a literal of a filter text can have. -/
def Json.IsFilterLiteral : Json → Prop
  | .null | .bool _ | .string _ | .number (.double _) => True
  | .number (.int n _) => n < twoPow 63
  | .array _ | .object _ => False

/-- The operands that some text spells with at most some levels of parentheses. -/
inductive Operand.IsWritable : Nat → Operand → Prop where
  | property {nesting : Nat} {path : PropertyPath} (isPath : IsOperandPath path)
      : IsWritable nesting (.property path)
  | literal {nesting : Nat} {value : Json} (isLiteral : value.IsFilterLiteral)
      : IsWritable nesting (.literal value)
  | call {nesting : Nat} {operands : List Operand} {called : Operand} (function : Function)
      (arity : Operand.call? function operands = some called)
      (arguments : ∀ operand ∈ operands, IsWritable nesting operand)
      : IsWritable (nesting + 1) called

theorem Operand.IsWritable.mono {m n : Nat} {operand : Operand} (h : operand.IsWritable m)
    (le : m ≤ n)
    : operand.IsWritable n := by
  induction h generalizing n with
  | property isPath => exact .property isPath
  | literal isLiteral => exact .literal isLiteral
  | call function arity _ ih =>
      obtain ⟨n, rfl⟩ : ∃ k, n = k + 1 := ⟨n - 1, by omega⟩
      exact .call function arity (fun operand member => ih operand member (by omega))

namespace Grammar

theorem Listed.exists_spelling {phrase : Phrase Operand} {operands : List Operand}
    {text rest : List Char} (h : Listed phrase operands text rest)
    : ∀ operand ∈ operands, ∃ text rest, phrase operand text rest := by
  induction h with
  | one spelling =>
      intro operand member
      rw [List.mem_singleton.mp member]
      exact ⟨_, _, spelling⟩
  | cons spelling _ _ ih =>
      intro operand member
      rcases List.mem_cons.mp member with rfl | member
      · exact ⟨_, _, spelling⟩
      · exact ih operand member

/-- A spelled operand is writable, by induction on the levels that are left. -/
theorem isWritable_of_spellsOperand {nesting : Nat} {operand : Operand} {text rest : List Char}
    (h : SpellsOperand nesting operand text rest)
    : operand.IsWritable nesting := by
  induction nesting using Nat.strongRecOn generalizing operand text rest with
  | ind nesting ih =>
      cases h with
      | string s => exact .literal trivial
      | typed type s => exact .literal trivial
      | number numeral written nonempty denotes =>
          cases denotes with
          | int fits inRange => exact .literal fits.2.2
          | double => exact .literal trivial
      | constant known =>
          have listed : ∀ constant ∈ constants, constant.2.IsFilterLiteral := by
            simp [constants, Json.IsFilterLiteral]
          exact .literal (listed _ known)
      | call function name list arity =>
          cases nesting with
          | zero => exact absurd list id
          | succ nesting =>
              refine .call function arity (fun operand member => ?_)
              cases list with
              | empty => exact absurd member List.not_mem_nil
              | parentheses opening list =>
                  obtain ⟨text, rest, spelling⟩ := list.exists_spelling operand member
                  exact ih nesting (Nat.lt_succ_self nesting) spelling
      | path path isPath => exact .property isPath

-----------------------------------------------------------------------------------------
-- Texts of operands
-----------------------------------------------------------------------------------------

/-- A text that a printed operand may stand in front of. -/
def Separated (rest : List Char) : Prop :=
  ∀ c ∈ rest.head?, c = ' ' ∨ c = ',' ∨ c = ')'

theorem separated_cons {c : Char} (h : c = ' ' ∨ c = ',' ∨ c = ')') (rest : List Char)
    : Separated (c :: rest) := by
  intro d same
  cases same
  exact h

theorem Separated.head?_ne {rest : List Char} (h : Separated rest) {c : Char}
    (other : c ≠ ' ' ∧ c ≠ ',' ∧ c ≠ ')')
    : rest.head? ≠ some c := by
  intro first
  rcases h c first with same | same | same
  · exact other.1 same
  · exact other.2.1 same
  · exact other.2.2 same

theorem Separated.endsWord {rest : List Char} (h : Separated rest) : EndsWord rest := by
  intro c first
  rcases h c first with rfl | rfl | rfl
  · decide
  · decide
  · decide

theorem afterBlanks_append {chars : List Char} {c : Char} (first : chars.head? = some c)
    (solid : Text.isBlank c = false) (rest : List Char)
    : afterBlanks (chars ++ rest) = chars ++ rest := by
  obtain ⟨tail, rfl⟩ := List.head?_eq_some_iff.mp first
  exact afterBlanks_cons solid (tail ++ rest)

/-- A word is spelled by its characters. -/
theorem word_append {word : String} (isWord : IsWord word) {rest : List Char}
    (ends : EndsWord rest)
    : Word word (word.toList ++ rest) rest := by
  obtain ⟨c, first, isChar, _⟩ := Scan.exists_head_of_isWord isWord
  exact ⟨afterBlanks_append first (Text.isBlank_of_isWordChar isChar) rest, ends⟩

theorem exists_numeral {value : Number} (isLiteral : (Json.number value).IsFilterLiteral)
    : ∃ numeral : Numeral, numeral.text = value.text ∧ numeral.IsWritten ∧ numeral.whole ≠ []
        ∧ Denotes numeral value := by
  cases value with
  | int n inRange =>
      obtain ⟨numeral, text, written, complete, integral, rfl⟩ :=
        Number.exists_numeral_int n inRange
      exact ⟨numeral, text, written, complete.nonempty,
        .int ⟨integral, inRange.1, isLiteral⟩ inRange⟩
  | double x =>
      obtain ⟨numeral, text, written, complete, marked, decimal, read, finite⟩ :=
        Number.exists_numeral_double x
      have large : ¬ FitsSigned64 numeral := by
        intro fits
        have integral : numeral.isIntegral = true := fits.1
        simp [marked] at integral
      exact ⟨numeral, text, written, complete.nonempty, .double large read finite⟩

/-- A printed literal is spelled. -/
theorem spells_literal {arguments : Phrase (List Operand)} {value : Json}
    (isLiteral : value.IsFilterLiteral) {rest : List Char} (separated : Separated rest)
    : OperandWith arguments (.literal value) (value.literalChars ++ rest) rest := by
  have slash : rest.head? ≠ some '/' := separated.head?_ne (by decide)
  have constant (word : String) (known : (word, value) ∈ constants)
      (letters : word.toList = value.literalChars)
      : OperandWith arguments (.literal value) (value.literalChars ++ rest) rest := by
    rw [← letters]
    exact .constant known
      ⟨word_append (isWord_constant known) separated.endsWord, slash⟩
  cases value with
  | null => exact constant "null" (by decide) (by decide)
  | bool truth =>
      cases truth with
      | true => exact constant "true" (by decide) (by decide)
      | false => exact constant "false" (by decide) (by decide)
  | string s => exact .string s (afterBlanks_append (c := '\'') rfl (by decide) rest)
  | number value =>
      obtain ⟨numeral, text, written, nonempty, denotes⟩ := exists_numeral isLiteral
      obtain ⟨c, first, starts⟩ := written.exists_head nonempty
      have solid : Text.isBlank c = false := by
        rcases starts with digit | rfl
        · exact Text.isBlank_of_isWordChar (Text.isWordChar_of_isDigit digit)
        · decide
      have chars : (Json.number value).literalChars = numeral.text := text.symm
      have bare : [] ∈ typeSuffixes := by decide
      refine .number numeral written nonempty denotes bare ?_ separated.endsWord
      rw [chars, afterBlanks_append first solid]
      rfl
  | array items => exact absurd isLiteral id
  | object fields => exact absurd isLiteral id

/-- A printed list of operands is spelled, if each of its operands is. -/
theorem listed_intercalate {phrase : Phrase Operand} (blanks : Scan.IgnoresBlanks phrase)
    {operands : List Operand} (nonempty : operands ≠ [])
    (spelling : ∀ operand ∈ operands, ∀ rest, Separated rest
      → phrase operand (operand.chars ++ rest) rest)
    {rest : List Char} (separated : Separated rest)
    : Listed phrase operands
        ([',', ' '].intercalate (operands.map Operand.chars) ++ rest) rest := by
  induction operands with
  | nil => exact absurd rfl nonempty
  | cons first others ih =>
      rw [List.forall_mem_cons] at spelling
      cases others with
      | nil => exact .one (by simpa using spelling.1 rest separated)
      | cons second others =>
          have list := ih (by simp) spelling.2
          generalize tail : [',', ' '].intercalate ((second :: others).map Operand.chars) ++ rest
            = text at list
          have inner := Scan.ignoresBlanks_listed blanks (afterBlanks_space text).symm list
          have split
              : [',', ' '].intercalate ((first :: second :: others).map Operand.chars) ++ rest
                = first.chars ++ (',' :: ' ' :: text) := by
            simp [← tail, List.intercalate]
          rw [split]
          refine .cons (spelling.1 _ (separated_cons (.inr (.inl rfl)) _)) ?_ inner
          exact afterBlanks_cons (by decide) (' ' :: text)

/-- A call has at least one argument, and its text is its function's name with them. -/
theorem chars_of_call? {function : Function} {operands : List Operand} {called : Operand}
    (arity : Operand.call? function operands = some called)
    : operands ≠ []
      ∧ called.chars = Text.call function.name (operands.map Operand.chars) := by
  unfold Operand.call? at arity
  split at arity
  · cases arity
    exact ⟨by simp, rfl⟩
  · cases arity
    exact ⟨by simp, rfl⟩
  · cases arity
    exact ⟨by simp, rfl⟩
  · simp at arity

/-- The arguments of a printed call are spelled. -/
theorem spellsArguments_parentheses {nesting : Nat} {operands : List Operand}
    (nonempty : operands ≠ [])
    (spelling : ∀ operand ∈ operands, ∀ rest, Separated rest
      → SpellsOperand nesting operand (operand.chars ++ rest) rest)
    (rest : List Char)
    : SpellsArguments (nesting + 1) operands
        ('(' :: ([',', ' '].intercalate (operands.map Operand.chars) ++ ')' :: rest)) rest := by
  refine .parentheses (afterBlanks_cons (by decide) _)
    (listed_intercalate (Scan.ignoresBlanks_operandWith _) nonempty spelling
      (separated_cons (.inr (.inr rfl)) rest)) ?_
  exact afterBlanks_cons (by decide) rest

/-- The text of a writable operand spells it, by induction on the operand. -/
theorem spellsOperand_chars {nesting : Nat} {operand : Operand} (h : operand.IsWritable nesting)
    : ∀ rest, Separated rest → SpellsOperand nesting operand (operand.chars ++ rest) rest := by
  induction h with
  | property isPath =>
      intro rest separated
      obtain ⟨c, first, isChar, _⟩ := Scan.exists_head_of_isOperandPath isPath
      exact .path _ isPath
        ⟨afterBlanks_append first (Text.isBlank_of_isWordChar isChar) rest, separated.endsWord⟩
  | literal isLiteral => exact fun rest separated => spells_literal isLiteral separated
  | call function arity _ ih =>
      intro rest separated
      obtain ⟨nonempty, chars⟩ := chars_of_call? arity
      refine .call function ?_ (spellsArguments_parentheses nonempty ih rest) arity
      rw [chars, Text.call, List.append_assoc, List.append_assoc]
      exact word_append function.isWord_name (Text.stops_cons (by decide) _)

end Grammar

end RecordQuery
