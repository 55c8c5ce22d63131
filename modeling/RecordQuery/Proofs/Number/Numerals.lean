import RecordQuery.Number.Numeral
import RecordQuery.Proofs.Text.Runs

/-! Scanning a numeral is the inverse of writing it. What is scanned is written by what was passed
over, and a written numeral is scanned again in front of a text that cannot go on with it.
-/

namespace RecordQuery.Numeral

/-- The parts of a numeral are rows of digits, with the marks and signs of numerals between them. -/
structure IsWritten (n : Numeral) : Prop where
  whole : ∀ c ∈ n.whole, Text.isDigit c
  fraction : ∀ digits ∈ n.fraction, ∀ c ∈ digits, Text.isDigit c
  mark : ∀ e ∈ n.exponent, e.mark = 'e' ∨ e.mark = 'E'
  sign : ∀ e ∈ n.exponent, ∀ c ∈ e.sign, c = '+' ∨ c = '-'
  exponent : ∀ e ∈ n.exponent, ∀ c ∈ e.digits, Text.isDigit c

/-- No digit is missing and none is to spare: whole digits start with no zero, except for a zero
alone, and a point and a mark have digits behind them.
-/
structure IsComplete (n : Numeral) : Prop where
  whole : n.whole = ['0'] ∨ n.whole ≠ [] ∧ n.whole.head? ≠ some '0'
  fraction : n.fraction ≠ some []
  exponent : ∀ e ∈ n.exponent, e.digits ≠ []

theorem IsComplete.nonempty {n : Numeral} (h : n.IsComplete) : n.whole ≠ [] := by
  rcases h.whole with zero | ⟨nonempty, _⟩
  · rw [zero]
    exact List.cons_ne_nil _ _
  · exact nonempty

/-- A numeral starts with a digit or a sign. -/
theorem IsWritten.exists_head {n : Numeral} (h : n.IsWritten) (nonempty : n.whole ≠ [])
    : ∃ c, n.text.head? = some c ∧ (Text.isDigit c = true ∨ c = '-') := by
  cases negative : n.negative with
  | true => exact ⟨'-', by simp [text, negative], .inr rfl⟩
  | false =>
      obtain ⟨c, rest, digits⟩ := List.exists_cons_of_ne_nil nonempty
      exact ⟨c, by simp [text, negative, digits], .inl (h.whole c (by simp [digits]))⟩

/-- A text that cannot go on with a numeral: no digit comes next, and no mark or sign that the
numeral could still have.
-/
structure EndsBefore (n : Numeral) (rest : List Char) : Prop where
  digit : Text.Stops Text.isDigit rest
  point : n.fraction = none → n.exponent = none → rest.head? ≠ some '.'
  mark : n.exponent = none → rest.head? ≠ some 'e' ∧ rest.head? ≠ some 'E'
  sign : ∀ e ∈ n.exponent, e.sign = none → e.digits = [] →
    rest.head? ≠ some '+' ∧ rest.head? ≠ some '-'

-----------------------------------------------------------------------------------------
-- What is scanned was written in front of what is left
-----------------------------------------------------------------------------------------

/-- The text of an exponent that may be absent. -/
def exponentText (exponent : Option Exponent) : List Char :=
  match exponent with
  | some e => e.text
  | none => []

/-- The text of a fraction that may be absent. -/
def fractionText (fraction : Option (List Char)) : List Char :=
  match fraction with
  | some digits => '.' :: digits
  | none => []

theorem text_eq (n : Numeral)
    : n.text = (if n.negative then ['-'] else []) ++
        (n.whole ++ (fractionText n.fraction ++ exponentText n.exponent)) := by
  unfold text
  rw [List.append_assoc, List.append_assoc]
  rfl

theorem scanExponent_text (text : List Char)
    : exponentText (scanExponent text).1 ++ (scanExponent text).2 = text := by
  fun_cases scanExponent text <;> simp_all [exponentText, Exponent.text]

theorem scanFraction_text (text : List Char)
    : fractionText (scanFraction text).1 ++ (scanFraction text).2 = text := by
  fun_cases scanFraction text <;> simp [fractionText]

/-- The numeral that is scanned was written in front of what is left. -/
theorem scan_text (text : List Char) : (scan text).1.text ++ (scan text).2 = text := by
  have parts (unsigned : List Char)
      : unsigned.takeWhile Text.isDigit
          ++ (fractionText (scanFraction (unsigned.dropWhile Text.isDigit)).1
            ++ exponentText
              (scanExponent (scanFraction (unsigned.dropWhile Text.isDigit)).2).1)
          ++ (scanExponent (scanFraction (unsigned.dropWhile Text.isDigit)).2).2
        = unsigned := by
    rw [List.append_assoc, List.append_assoc, scanExponent_text, scanFraction_text,
      List.takeWhile_append_dropWhile]
  rw [text_eq]
  by_cases negative : text.head? = some '-'
  · obtain ⟨rest, rfl⟩ := List.head?_eq_some_iff.mp negative
    simpa [scan] using parts rest
  · simpa [scan, negative] using parts text

/-- What is scanned has the form of a numeral. -/
theorem isWritten_scan (text : List Char) : (scan text).1.IsWritten := by
  have digits (rest : List Char) : ∀ c ∈ rest.takeWhile Text.isDigit, Text.isDigit c = true :=
    fun c h => Text.of_mem_takeWhile h
  have fraction (rest : List Char)
      : ∀ row ∈ (scanFraction rest).1, ∀ c ∈ row, Text.isDigit c = true := by
    intro row found
    unfold scanFraction at found
    split at found
    · cases found
      exact digits _
    · simp at found
  have exponent (rest : List Char)
      : ∀ e ∈ (scanExponent rest).1,
          (e.mark = 'e' ∨ e.mark = 'E') ∧ (∀ c ∈ e.sign, c = '+' ∨ c = '-')
          ∧ ∀ c ∈ e.digits, Text.isDigit c = true := by
    intro e found
    unfold scanExponent at found
    split at found
    · split at found
      · next mark =>
          split at found
          · cases found
            exact ⟨mark, by simp, digits _⟩
          · cases found
            exact ⟨mark, by simp, digits _⟩
          · cases found
            exact ⟨mark, by simp, digits _⟩
      · simp at found
    · simp at found
  exact {
    whole := digits _
    fraction := fraction _
    mark := fun e found => (exponent _ e found).1
    sign := fun e found => (exponent _ e found).2.1
    exponent := fun e found => (exponent _ e found).2.2
  }

-----------------------------------------------------------------------------------------
-- What is written is scanned again
-----------------------------------------------------------------------------------------

/-- An exponent without a sign is scanned where no sign comes next. -/
theorem scanExponent_unsigned {mark : Char} {more : List Char} (isMark : mark = 'e' ∨ mark = 'E')
    (plus : more.head? ≠ some '+') (minus : more.head? ≠ some '-')
    : scanExponent (mark :: more)
      = (some ⟨mark, none, more.takeWhile Text.isDigit⟩, more.dropWhile Text.isDigit) := by
  unfold scanExponent
  dsimp only
  rw [if_pos isMark]
  split
  · exact absurd rfl plus
  · exact absurd rfl minus
  · rfl

/-- A written exponent is scanned again, by cases of its sign. -/
theorem scanExponent_append {e : Exponent} {rest : List Char} (mark : e.mark = 'e' ∨ e.mark = 'E')
    (sign : ∀ c ∈ e.sign, c = '+' ∨ c = '-') (digits : ∀ c ∈ e.digits, Text.isDigit c)
    (stops : Text.Stops Text.isDigit rest)
    (unsigned : e.sign = none → e.digits = [] → rest.head? ≠ some '+' ∧ rest.head? ≠ some '-')
    : scanExponent (e.text ++ rest) = (some e, rest) := by
  obtain ⟨m, written, row⟩ := e
  dsimp only at mark sign digits unsigned
  have run := Text.takeWhile_append_of_stops digits stops
  have left := Text.dropWhile_append_of_stops digits stops
  cases written with
  | some c =>
      rcases sign c rfl with rfl | rfl
      · simp [Exponent.text, scanExponent, mark, run, left]
      · simp [Exponent.text, scanExponent, mark, run, left]
  | none =>
      -- without a sign, the first digit or what follows could be taken for one
      have noSign : (row ++ rest).head? ≠ some '+' ∧ (row ++ rest).head? ≠ some '-' := by
        cases row with
        | nil => exact unsigned rfl rfl
        | cons c row =>
            have digit := digits c (by simp)
            constructor <;>
            · intro same
              simp only [List.cons_append, List.head?_cons, Option.some.injEq] at same
              subst same
              exact absurd digit (by decide)
      have scanned := scanExponent_unsigned mark noSign.1 noSign.2
      rw [run, left] at scanned
      simpa [Exponent.text] using scanned

theorem scanExponent_none {rest : List Char} (small : rest.head? ≠ some 'e')
    (capital : rest.head? ≠ some 'E')
    : scanExponent rest = (none, rest) := by
  cases rest with
  | nil => rfl
  | cons c rest =>
      have noMark : ¬ (c = 'e' ∨ c = 'E') := by
        intro held
        rcases held with rfl | rfl
        · exact small rfl
        · exact capital rfl
      simp [scanExponent, noMark]

theorem scanFraction_none {rest : List Char} (h : rest.head? ≠ some '.')
    : scanFraction rest = (none, rest) := by
  unfold scanFraction
  split
  · exact absurd rfl h
  · rfl

/-- The exponent of a written numeral is scanned again, also where there is none. -/
theorem IsWritten.scanExponent {n : Numeral} (h : n.IsWritten) {rest : List Char}
    (ends : n.EndsBefore rest)
    : Numeral.scanExponent (exponentText n.exponent ++ rest) = (n.exponent, rest) := by
  cases found : n.exponent with
  | none => exact scanExponent_none (ends.mark found).1 (ends.mark found).2
  | some e =>
      exact scanExponent_append (h.mark e found) (h.sign e found) (h.exponent e found) ends.digit
        (ends.sign e found)

/-- No digit comes next behind the fraction of a written numeral. -/
theorem IsWritten.stops_exponent {n : Numeral} (h : n.IsWritten) {rest : List Char}
    (ends : n.EndsBefore rest)
    : Text.Stops Text.isDigit (exponentText n.exponent ++ rest) := by
  cases found : n.exponent with
  | none => exact ends.digit
  | some e =>
      refine Text.stops_cons ?_ _
      rcases h.mark e found with mark | mark <;> rw [mark] <;> rfl

/-- The fraction of a written numeral is scanned again, also where there is none. -/
theorem IsWritten.scanFraction {n : Numeral} (h : n.IsWritten) {rest : List Char}
    (ends : n.EndsBefore rest)
    : Numeral.scanFraction (fractionText n.fraction ++ (exponentText n.exponent ++ rest))
      = (n.fraction, exponentText n.exponent ++ rest) := by
  have stops := h.stops_exponent ends
  cases found : n.fraction with
  | some digits =>
      simp [fractionText, Numeral.scanFraction,
        Text.takeWhile_append_of_stops (h.fraction digits found) stops,
        Text.dropWhile_append_of_stops (h.fraction digits found) stops]
  | none =>
      refine scanFraction_none ?_
      cases marked : n.exponent with
      | none => exact ends.point found marked
      | some e =>
          rcases h.mark e marked with mark | mark <;>
            simp [fractionText, exponentText, Exponent.text, mark]

theorem IsWritten.stops_fraction {n : Numeral} (h : n.IsWritten) {rest : List Char}
    (ends : n.EndsBefore rest)
    : Text.Stops Text.isDigit (fractionText n.fraction ++ (exponentText n.exponent ++ rest)) := by
  cases n.fraction with
  | none => exact h.stops_exponent ends
  | some digits => exact Text.stops_cons rfl _

/-- A written numeral is scanned again in front of a text that cannot go on with it. -/
theorem IsWritten.scan_append {n : Numeral} (h : n.IsWritten) (nonempty : n.whole ≠ [])
    {rest : List Char} (ends : n.EndsBefore rest)
    : scan (n.text ++ rest) = (n, rest) := by
  have stops := h.stops_fraction ends
  have run := Text.takeWhile_append_of_stops h.whole stops
  have left := Text.dropWhile_append_of_stops h.whole stops
  have unsigned : (n.whole
      ++ (fractionText n.fraction ++ (exponentText n.exponent ++ rest))).head? ≠ some '-' := by
    obtain ⟨c, row, whole⟩ := List.exists_cons_of_ne_nil nonempty
    have digit := h.whole c (by simp [whole])
    intro same
    simp only [whole, List.cons_append, List.head?_cons, Option.some.injEq] at same
    subst same
    exact absurd digit (by decide)
  rw [text_eq, List.append_assoc, List.append_assoc, List.append_assoc]
  cases negative : n.negative with
  | true =>
      simp only [↓reduceIte, scan, List.cons_append, List.nil_append, List.head?_cons, decide_true,
        List.tail_cons, left, run, h.scanFraction ends, h.scanExponent ends]
      rw [← negative]
  | false =>
      simp only [Bool.false_eq_true, ↓reduceIte, scan, List.nil_append, unsigned, decide_false,
        left, run, h.scanFraction ends, h.scanExponent ends]
      rw [← negative]

end RecordQuery.Numeral
