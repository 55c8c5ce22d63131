import Mathlib.Tactic.SplitIfs
import RecordQuery.Proofs.Text.Runs
import RecordQuery.Toml.Quoting

/-! Quoted texts are read back. Of the four ways to quote, the one that is chosen for a text can
hold it, and what stands between its delimiters is read character by character, up to the closing
delimiter.
-/

namespace RecordQuery.Toml

namespace Quoting

variable {quoting : Quoting} {c : Char} {text body piece rest : List Char} {steps marks : Nat}

-----------------------------------------------------------------------------------------
-- Escapes
-----------------------------------------------------------------------------------------

/-- A code point is read off as many digits as it has, whatever follows them. -/
theorem codePoint?_append {count : Nat} {digits : List Char} (length : digits.length = count)
    (rest : List Char)
    : codePoint? count (digits ++ rest)
      = (codePoint? count digits).map fun (c, _) => (c, rest) := by
  subst length
  unfold codePoint?
  rw [List.take_left, List.take_length, List.drop_left]
  cases digits.mapM Text.hexDigit? with
  | none => rfl
  | some values =>
      simp only [bind, Option.bind]
      split <;> rfl

/-- The characters that are escaped by their code points. -/
def isCoded (c : Char) : Bool :=
  c.toNat < 0x20 || c.toNat = 0x7F

/-- The hexadecimal digits of a character that is escaped by its code point. -/
def codeDigits (c : Char) : List Char :=
  ['0', '0', (Nat.digitChar (c.toNat / 16)).toUpper, (Nat.digitChar (c.toNat % 16)).toUpper]

theorem codePoint?_codeDigits (coded : isCoded c = true) (rest : List Char)
    : codePoint? 4 (codeDigits c ++ rest) = some (c, rest) := by
  have known : ∀ n < 0x80, codePoint? 4 (codeDigits (Char.ofNat n)) = some (Char.ofNat n, []) := by
    decide +kernel
  have small : c.toNat < 0x80 := by
    simp only [isCoded, Bool.or_eq_true, decide_eq_true_eq] at coded
    omega
  have own := known c.toNat small
  rw [Char.ofNat_toNat] at own
  have length : (codeDigits c).length = 4 := rfl
  rw [codePoint?_append length, own]
  rfl

/-- What stands for a character between quotation marks with escapes: an escape that is read as it
and continues no line, or the character itself.
-/
inductive StandsFor (c : Char) : List Char → Prop
  | escape {after} (read : ∀ rest, escape? (after ++ rest) = some (c, rest))
    (unbroken : ∀ rest, continuation? (after ++ rest) = none)
    : StandsFor c ('\\' :: after)
  | plain (isText : isText c = true) (noMark : c ≠ '"') (noEscape : c ≠ '\\') : StandsFor c [c]

theorem standsFor_escapeChar (c : Char) : StandsFor c (escapeChar c) := by
  unfold escapeChar
  split_ifs with backspace tab newline formFeed carriageReturn quote backslash coded
  · subst backspace
    exact .escape (fun _ => rfl) (fun _ => rfl)
  · subst tab
    exact .escape (fun _ => rfl) (fun _ => rfl)
  · subst newline
    exact .escape (fun _ => rfl) (fun _ => rfl)
  · subst formFeed
    exact .escape (fun _ => rfl) (fun _ => rfl)
  · subst carriageReturn
    exact .escape (fun _ => rfl) (fun _ => rfl)
  · subst quote
    exact .escape (fun _ => rfl) (fun _ => rfl)
  · subst backslash
    exact .escape (fun _ => rfl) (fun _ => rfl)
  · exact .escape (codePoint?_codeDigits (by simpa [isCoded] using coded)) (fun _ => rfl)
  · refine .plain ?_ quote backslash
    simp only [isText, Bool.or_eq_true, Bool.and_eq_true, decide_eq_true_eq, bne_iff_ne]
    omega

-----------------------------------------------------------------------------------------
-- Texts on one line
-----------------------------------------------------------------------------------------

/-- One step of a reader takes a piece of a text and gives the character that it stands for. -/
structure TakesOne (read : Nat → List Char → Option (List Char × List Char)) (c : Char)
    (piece : List Char) : Prop where
  nonempty : piece ≠ []
  step : ∀ steps rest, read (steps + 1) (piece ++ rest)
    = (read steps rest).map fun (body, after) => (c :: body, after)

theorem lineBody?_text (isText : isText c = true) (noMark : c ≠ quoting.mark)
    (noEscape : quoting.hasEscapes = true → c ≠ '\\')
    : TakesOne (lineBody? quoting) c [c] := by
  refine ⟨List.cons_ne_nil _ _, fun steps rest => ?_⟩
  rw [List.singleton_append, lineBody?, if_neg noMark, if_neg (by simpa using noEscape),
    if_pos isText]
  cases lineBody? quoting steps rest <;> rfl

theorem StandsFor.lineBody? (stands : StandsFor c piece)
    : TakesOne (lineBody? .basic) c piece := by
  cases stands with
  | escape read unbroken =>
      refine ⟨List.cons_ne_nil _ _, fun steps rest => ?_⟩
      rw [List.cons_append, Quoting.lineBody?, if_neg (by decide), if_pos (by decide), read rest]
      simp only [Option.bind_eq_bind, Option.bind_some]
      cases Quoting.lineBody? .basic steps rest <;> rfl
  | plain isText noMark noEscape => exact lineBody?_text isText noMark fun _ => noEscape

/-- A line is read piece by piece up to its closing mark, by induction on the characters that the
pieces stand for.
-/
theorem lineBody?_flatMap {pieces : Char → List Char}
    (taken : ∀ c ∈ text, TakesOne (lineBody? quoting) c (pieces c)) (rest : List Char)
    (enough : (text.flatMap pieces).length < steps)
    : lineBody? quoting steps (text.flatMap pieces ++ quoting.mark :: rest)
      = some (text, rest) := by
  induction text generalizing steps with
  | nil =>
      obtain ⟨steps, rfl⟩ := Nat.exists_eq_add_one_of_ne_zero (Nat.ne_zero_of_lt enough)
      rw [List.flatMap_nil, List.nil_append, lineBody?, if_pos rfl]
  | cons c text ih =>
      rw [List.forall_mem_cons] at taken
      rw [List.flatMap_cons, List.length_append] at enough
      have some := List.length_pos_iff.mpr taken.1.nonempty
      obtain ⟨steps, rfl⟩ := Nat.exists_eq_add_one_of_ne_zero (Nat.ne_zero_of_lt enough)
      rw [List.flatMap_cons, List.append_assoc, taken.1.step, ih taken.2 (by omega)]
      rfl

-----------------------------------------------------------------------------------------
-- Texts over several lines
-----------------------------------------------------------------------------------------

theorem lineBreak?_text (isText : isText c = true) (rest : List Char)
    : lineBreak? (c :: rest) = none := by
  unfold lineBreak?
  split
  · next same =>
      cases same
      cases isText
  · next same =>
      cases same
      cases isText
  · rfl

/-- What stands for a character of a text over several lines: it is read as the character, starts
with no mark, and breaks no line unless the character does.
-/
structure IsPiece (quoting : Quoting) (c : Char) (piece : List Char) : Prop
    extends TakesOne (longBody? quoting) c piece where
  noMark : piece.head? ≠ some quoting.mark
  unbroken : c ≠ '\n' → ∀ rest, lineBreak? (piece ++ rest) = none

theorem takeWhile_mark_cons (noMark : c ≠ quoting.mark) (rest : List Char)
    : (c :: rest).takeWhile (· == quoting.mark) = [] := by
  simp [noMark]

theorem isPiece_text (isText : isText c = true) (noMark : c ≠ quoting.mark)
    (noEscape : quoting.hasEscapes = true → c ≠ '\\')
    : IsPiece quoting c [c] := by
  refine ⟨⟨List.cons_ne_nil _ _, fun steps rest => ?_⟩, by simpa using noMark,
    fun _ => lineBreak?_text isText⟩
  rw [List.singleton_append, longBody?]
  simp only [takeWhile_mark_cons noMark, lineBreak?_text isText, isText]
  rw [if_neg (by decide), if_neg (by simpa using noEscape), if_pos trivial]
  cases longBody? quoting steps rest <;> rfl

theorem isPiece_newline (quoting : Quoting) : IsPiece quoting '\n' ['\n'] := by
  have noMark : '\n' ≠ quoting.mark := by cases quoting <;> decide
  refine ⟨⟨List.cons_ne_nil _ _, fun steps rest => ?_⟩, by simpa using noMark,
    fun other => absurd rfl other⟩
  rw [List.singleton_append, longBody?]
  simp only [takeWhile_mark_cons noMark, lineBreak?]
  rw [if_neg (by decide), if_neg (by simp)]
  cases longBody? quoting steps rest <;> rfl

theorem StandsFor.isPiece (stands : StandsFor c piece) : IsPiece .longBasic c piece := by
  cases stands with
  | @escape after read unbroken =>
      refine ⟨⟨List.cons_ne_nil _ _, fun steps rest => ?_⟩, by simp [mark],
        fun _ _ => lineBreak?_text rfl _⟩
      rw [List.cons_append, longBody?]
      have noMark : '\\' ≠ longBasic.mark := by decide
      simp only [takeWhile_mark_cons noMark]
      rw [if_neg (by decide), if_pos (by decide), unbroken rest]
      dsimp only
      rw [read rest]
      simp only [Option.bind_eq_bind, Option.bind_some]
      cases longBody? .longBasic steps rest <;> rfl
  | plain isText noMark noEscape => exact isPiece_text isText noMark fun _ => noEscape

/-- A text over several lines with what stands for it, after some marks in a row: up to two marks in
a row stand as they are.
-/
inductive Spelled (quoting : Quoting) : Nat → List Char → List Char → Prop
  | nil {marks : Nat} : Spelled quoting marks [] []
  | mark {marks : Nat} {text body : List Char} (room : marks < 2)
    (more : Spelled quoting (marks + 1) text body)
    : Spelled quoting marks (quoting.mark :: text) (quoting.mark :: body)
  | other {marks : Nat} {c : Char} {piece text body : List Char} (isPiece : IsPiece quoting c piece)
    (more : Spelled quoting 0 text body)
    : Spelled quoting marks (c :: text) (piece ++ body)

/-- How many marks stand at the start of a text. -/
def leadingMarks (quoting : Quoting) (text : List Char) : Nat :=
  (text.takeWhile (· == quoting.mark)).length

theorem leadingMarks_cons_mark (rest : List Char)
    : quoting.leadingMarks (quoting.mark :: rest) = quoting.leadingMarks rest + 1 := by
  simp [leadingMarks]

theorem IsPiece.leadingMarks (isPiece : IsPiece quoting c piece) (rest : List Char)
    : quoting.leadingMarks (piece ++ rest) = 0 := by
  have noMark := isPiece.noMark
  cases piece with
  | nil => exact absurd rfl isPiece.nonempty
  | cons first piece =>
      rw [Quoting.leadingMarks, List.cons_append, takeWhile_mark_cons (by simpa using noMark)]
      rfl

/-- What is spelled out is marks to its end, or it has at most two marks in a row at its start. -/
theorem Spelled.marks_or (spelled : Spelled quoting marks text body) (few : marks ≤ 2)
    : (∃ count, count + marks ≤ 2 ∧ body = List.replicate count quoting.mark
          ∧ text = List.replicate count quoting.mark)
      ∨ ∀ rest, quoting.leadingMarks (body ++ rest) + marks ≤ 2 := by
  induction spelled with
  | nil => exact .inl ⟨0, by omega, rfl, rfl⟩
  | mark room more ih =>
      rcases ih room with ⟨count, fits, rfl, rfl⟩ | fits
      · exact .inl ⟨count + 1, by omega, rfl, rfl⟩
      · refine .inr fun rest => ?_
        have behind := fits rest
        rw [List.cons_append, leadingMarks_cons_mark]
        omega
  | other isPiece more ih =>
      refine .inr fun rest => ?_
      rw [List.append_assoc, isPiece.leadingMarks]
      omega

/-- Marks up to two and a closing delimiter are read as those marks. -/
theorem longBody?_marks {count : Nat} (few : count ≤ 2)
    (stops : Text.Stops (· == quoting.mark) rest) (steps : Nat)
    : longBody? quoting (steps + 1)
        (List.replicate count quoting.mark ++ (List.replicate 3 quoting.mark ++ rest))
      = some (List.replicate count quoting.mark, rest) := by
  have all : ∀ c ∈ List.replicate (count + 2 + 1) quoting.mark, (c == quoting.mark) = true := by
    intro c member
    simpa using List.eq_of_mem_replicate member
  have run := Text.takeWhile_append_of_stops all stops
  have split : List.replicate count quoting.mark ++ (List.replicate 3 quoting.mark ++ rest)
      = quoting.mark :: (List.replicate (count + 2) quoting.mark ++ rest) := by
    rw [← List.append_assoc, List.replicate_append_replicate]
    rfl
  rw [split, longBody?]
  rw [List.replicate_succ, List.cons_append] at run
  have kept : min (count + 2 + 1 - 3) 2 = count := by omega
  simp only [run, List.length_cons, List.length_replicate, kept]
  rw [if_pos (by omega)]
  have dropped
      : (quoting.mark :: (List.replicate (count + 2) quoting.mark ++ rest)).drop (count + 3)
        = rest := by
    rw [← List.cons_append, ← List.replicate_succ, List.drop_left' (by simp)]
  rw [dropped]

/-- A mark that less than two others follow belongs to the text. -/
theorem longBody?_mark (few : quoting.leadingMarks (quoting.mark :: rest) ≤ 2) (steps : Nat)
    : longBody? quoting (steps + 1) (quoting.mark :: rest)
      = (longBody? quoting steps rest).map fun (body, after) => (quoting.mark :: body, after) := by
  have isText : isText quoting.mark = true := by cases quoting <;> rfl
  have noEscape : quoting.mark ≠ '\\' := by cases quoting <;> decide
  unfold leadingMarks at few
  rw [longBody?]
  simp only [lineBreak?_text isText, isText]
  rw [if_neg (by omega), if_neg (by simp [noEscape]), if_pos trivial]
  cases longBody? quoting steps rest <;> rfl

/-- A text over several lines is read up to its closing delimiter, by induction on how it is spelled
out. Marks in front of the delimiter are read with it.
-/
theorem Spelled.longBody? (spelled : Spelled quoting marks text body) (few : marks ≤ 2)
    (stops : Text.Stops (· == quoting.mark) rest) (enough : body.length < steps)
    : Quoting.longBody? quoting steps (body ++ (List.replicate 3 quoting.mark ++ rest))
      = some (text, rest) := by
  induction spelled generalizing steps with
  | nil =>
      obtain ⟨steps, rfl⟩ := Nat.exists_eq_add_one_of_ne_zero (Nat.ne_zero_of_lt enough)
      exact longBody?_marks (Nat.zero_le 2) stops steps
  | mark room more ih =>
      obtain ⟨steps, rfl⟩ := Nat.exists_eq_add_one_of_ne_zero (Nat.ne_zero_of_lt enough)
      rcases (Spelled.mark room more).marks_or few with ⟨count, fits, sameBody, sameText⟩ | fits
      · rw [sameBody, sameText]
        exact longBody?_marks (by omega) stops steps
      · have ahead := fits (List.replicate 3 quoting.mark ++ rest)
        rw [List.cons_append] at ahead ⊢
        rw [List.length_cons] at enough
        rw [longBody?_mark (by omega), ih room (by omega)]
        rfl
  | other isPiece more ih =>
      obtain ⟨steps, rfl⟩ := Nat.exists_eq_add_one_of_ne_zero (Nat.ne_zero_of_lt enough)
      have some := List.length_pos_iff.mpr isPiece.nonempty
      rw [List.length_append] at enough
      rw [List.append_assoc, isPiece.step, ih (Nat.zero_le 2) (by omega)]
      rfl

/-- A text without line breaks is spelled out without one at its start. -/
theorem Spelled.lineBreak? (spelled : Spelled quoting marks text body) (oneLine : '\n' ∉ text)
    (rest : List Char)
    : Toml.lineBreak? (body ++ quoting.mark :: rest) = none := by
  have atMark (rest : List Char) : Toml.lineBreak? (quoting.mark :: rest) = none :=
    lineBreak?_text (by cases quoting <;> rfl) rest
  cases spelled with
  | nil => exact atMark rest
  | mark room more => exact atMark _
  | other isPiece more =>
      rw [List.append_assoc]
      refine isPiece.unbroken ?_ _
      rintro rfl
      exact oneLine List.mem_cons_self

-----------------------------------------------------------------------------------------
-- How texts are spelled out
-----------------------------------------------------------------------------------------

theorem spelled_longBasicBody (few : marks ≤ 2) (text : List Char)
    : Spelled .longBasic marks text (longBasicBody marks text) := by
  induction text generalizing marks with
  | nil => exact .nil
  | cons c text ih =>
      unfold longBasicBody
      split_ifs with isMark many newline
      · subst isMark
        exact .other (standsFor_escapeChar '"').isPiece (ih (Nat.zero_le 2))
      · subst isMark
        exact .mark (by omega) (ih (by omega))
      · subst newline
        exact .other (isPiece_newline _) (ih (Nat.zero_le 2))
      · exact .other (standsFor_escapeChar c).isPiece (ih (Nat.zero_le 2))

theorem le_longestRunAfter (mark : Char) (run : Nat) (text : List Char)
    : run ≤ longestRunAfter mark run text := by
  induction text generalizing run with
  | nil => exact Nat.le_refl run
  | cons c text ih =>
      unfold longestRunAfter
      split
      · exact Nat.le_of_succ_le (ih (run + 1))
      · exact Nat.le_max_left ..

/-- A text without control characters that has at most two marks in a row can stand as it is. -/
theorem spelled_literal (isPlain : ∀ c ∈ text, needsEscape c = false)
    (short : longestRunAfter (mark .longLiteral) marks text ≤ 2)
    : Spelled .longLiteral marks text text := by
  induction text generalizing marks with
  | nil => exact .nil
  | cons c text ih =>
      rw [List.forall_mem_cons] at isPlain
      unfold longestRunAfter at short
      split at short
      · next isMark =>
          subst isMark
          have bound := le_longestRunAfter (mark .longLiteral) (marks + 1) text
          exact .mark (by omega) (ih isPlain.2 short)
      · next noMark =>
          rw [Nat.max_le] at short
          have isPiece : IsPiece .longLiteral c [c] := by
            by_cases newline : c = '\n'
            · subst newline
              exact isPiece_newline _
            · have isText : isText c = true := by simpa [needsEscape, newline] using isPlain.1
              exact isPiece_text isText noMark (nomatch ·)
          exact .other isPiece (ih isPlain.2 short.2)

-----------------------------------------------------------------------------------------
-- The quoting that is chosen
-----------------------------------------------------------------------------------------

/-- A quoting can hold a text: with escapes any text, without escapes only one without control
characters in which its delimiter does not occur; and on one line only one that is.
-/
def Holds (quoting : Quoting) (text : List Char) : Prop :=
  match quoting with
  | .basic | .longBasic => True
  | .literal => ∀ c ∈ text, isText c = true ∧ c ≠ '\''
  | .longLiteral => (∀ c ∈ text, needsEscape c = false) ∧ longestRun '\'' text ≤ 2

theorem not_mem_of_longestRunAfter {mark : Char} {run : Nat}
    (none : longestRunAfter mark run text = 0)
    : mark ∉ text := by
  induction text generalizing run with
  | nil => exact List.not_mem_nil
  | cons c text ih =>
      unfold longestRunAfter at none
      split at none
      · have bound := le_longestRunAfter mark (run + 1) text
        omega
      · next other =>
          rw [Nat.max_eq_zero_iff] at none
          exact List.not_mem_cons_of_ne_of_not_mem (Ne.symm other) (ih none.2)

theorem holds_choose (text : List Char) : (choose text).Holds text := by
  unfold choose
  dsimp only
  split_ifs with basic literal longBasic longLiteral oneLine
  · trivial
  · simp only [Bool.and_eq_true, Bool.not_eq_true', beq_iff_eq] at literal
    obtain ⟨⟨isPlain, oneLine⟩, noMark⟩ := literal
    rw [List.any_eq_false] at isPlain
    rw [List.contains_eq_mem, decide_eq_false_iff_not] at oneLine
    intro c member
    refine ⟨?_, ?_⟩
    · have plain := isPlain c member
      have newline : c ≠ '\n' := ne_of_mem_of_not_mem member oneLine
      simpa [needsEscape, newline] using plain
    · exact ne_of_mem_of_not_mem member (not_mem_of_longestRunAfter noMark)
  · trivial
  · simp only [Bool.and_eq_true, Bool.not_eq_true', decide_eq_true_eq] at longLiteral
    rw [List.any_eq_false] at longLiteral
    exact ⟨fun c member => by simpa using longLiteral.1 c member, longLiteral.2⟩
  · trivial
  · trivial

-----------------------------------------------------------------------------------------
-- Quoted texts
-----------------------------------------------------------------------------------------

theorem open?_long (long : quoting.isLong = true) (rest : List Char)
    : open? (List.replicate 3 quoting.mark ++ rest) = some (quoting, rest) := by
  cases quoting with
  | basic | literal => cases long
  | longBasic | longLiteral => rfl

/-- A single mark opens a line, unless two others follow. -/
theorem open?_line (short : quoting.isLong = false)
    (single : ∀ after, rest ≠ quoting.mark :: quoting.mark :: after)
    : open? (quoting.mark :: rest) = some (quoting, rest) := by
  cases quoting with
  | longBasic | longLiteral => cases short
  | basic =>
      rw [mark] at single ⊢
      unfold open?
      split
      · next same =>
          cases same
          exact absurd rfl (single _)
      · next same =>
          cases same
          rfl
      · next same => cases same
      · next same => cases same
      · next none _ _ => exact absurd rfl (none _)
  | literal =>
      rw [mark] at single ⊢
      unfold open?
      split
      · next same => cases same
      · next same => cases same
      · next same =>
          cases same
          exact absurd rfl (single _)
      · next same =>
          cases same
          rfl
      · next none => exact absurd rfl (none _)

theorem Holds.spelled (holds : quoting.Holds text) (long : quoting.isLong = true)
    : Spelled quoting 0 text (quoting.body text) := by
  cases quoting with
  | basic | literal => cases long
  | longBasic => exact spelled_longBasicBody (Nat.zero_le 2) text
  | longLiteral => exact spelled_literal holds.1 holds.2

theorem StandsFor.head?_ne (stands : StandsFor c piece) : piece.head? ≠ some '"' := by
  cases stands with
  | escape read unbroken => simp
  | plain isText noMark noEscape => simpa using noMark

/-- On one line each character of a text has its own piece, which does not start with a mark. -/
theorem Holds.exists_pieces (holds : quoting.Holds text) (short : quoting.isLong = false)
    : ∃ pieces : Char → List Char, quoting.body text = text.flatMap pieces
      ∧ ∀ c ∈ text, TakesOne (lineBody? quoting) c (pieces c)
        ∧ (pieces c).head? ≠ some quoting.mark := by
  cases quoting with
  | longBasic | longLiteral => cases short
  | basic =>
      refine ⟨escapeChar, rfl, fun c _ => ?_⟩
      exact ⟨(standsFor_escapeChar c).lineBody?, (standsFor_escapeChar c).head?_ne⟩
  | literal =>
      refine ⟨fun c => [c], (List.flatMap_singleton' text).symm, fun c member => ?_⟩
      obtain ⟨isText, noMark⟩ := holds c member
      exact ⟨lineBody?_text isText noMark (nomatch ·), by simpa [mark] using noMark⟩

/-- A line break that is put in front is left out again. -/
theorem getD_lineBreak? (isPut : Bool) (text : List Char)
    (unbroken : isPut = false → lineBreak? text = none)
    : (lineBreak? ((if isPut then ['\n'] else []) ++ text)).getD
        ((if isPut then ['\n'] else []) ++ text)
      = text := by
  cases isPut with
  | true => rfl
  | false =>
      rw [if_neg (by decide), List.nil_append, unbroken rfl]
      rfl

theorem read?_write_long (holds : quoting.Holds text) (long : quoting.isLong = true)
    (stops : Text.Stops (· == quoting.mark) rest) (enough : (quoting.write text).length ≤ steps)
    : read? steps (quoting.write text ++ rest) = some (String.ofList text, rest) := by
  have delimiter : quoting.delimiter = List.replicate 3 quoting.mark := by
    rw [Quoting.delimiter, if_pos long]
  have spelled := holds.spelled long
  have fits : (quoting.body text).length < steps := by
    rw [write, delimiter] at enough
    simp only [List.length_append, List.length_replicate] at enough
    omega
  have start := getD_lineBreak? (quoting.isLong && text.contains '\n')
    (quoting.body text ++ (List.replicate 3 quoting.mark ++ rest))
    fun oneLine => spelled.lineBreak? (by simpa [long] using oneLine) _
  rw [write, delimiter]
  simp only [List.append_assoc]
  rw [read?, open?_long long]
  simp only [Option.bind_eq_bind, Option.bind_some, body?, if_pos long, start,
    spelled.longBody? (Nat.zero_le 2) stops fits]

theorem read?_write_line (holds : quoting.Holds text) (short : quoting.isLong = false)
    (stops : Text.Stops (· == quoting.mark) rest) (enough : (quoting.write text).length ≤ steps)
    : read? steps (quoting.write text ++ rest) = some (String.ofList text, rest) := by
  obtain ⟨pieces, spelled, taken⟩ := holds.exists_pieces short
  have written : quoting.write text = quoting.mark :: (text.flatMap pieces ++ [quoting.mark]) := by
    simp [write, delimiter, short, spelled]
  have fits : (text.flatMap pieces).length < steps := by
    rw [written] at enough
    simp only [List.length_cons, List.length_append] at enough
    omega
  have single : ∀ after,
      text.flatMap pieces ++ quoting.mark :: rest ≠ quoting.mark :: quoting.mark :: after := by
    intro after same
    cases text with
    | nil =>
        obtain ⟨_, rfl⟩ := List.cons.inj same
        simpa using stops quoting.mark rfl
    | cons c text =>
        obtain ⟨one, noMark⟩ := taken c List.mem_cons_self
        apply noMark
        have first := congrArg List.head? same
        rwa [List.flatMap_cons, List.append_assoc, List.head?_append,
          Option.or_of_isSome (by simp [one.nonempty])] at first
  rw [written, List.cons_append, List.append_assoc, List.singleton_append, read?,
    open?_line short single]
  simp only [Option.bind_eq_bind, Option.bind_some, body?, if_neg (Bool.not_eq_true _ ▸ short),
    lineBody?_flatMap (fun c member => (taken c member).1) rest fits]

/-- A text that a quoting holds is read back, if no quotation mark comes behind. -/
theorem read?_write (holds : quoting.Holds text) (stops : Text.Stops (· == quoting.mark) rest)
    (enough : (quoting.write text).length ≤ steps)
    : read? steps (quoting.write text ++ rest) = some (String.ofList text, rest) := by
  cases long : quoting.isLong with
  | true => exact read?_write_long holds long stops enough
  | false => exact read?_write_line holds long stops enough

end Quoting

/-- Any text is read back from its quoted form. -/
theorem read?_quote {s : String} {rest : List Char} {steps : Nat}
    (stops : ∀ c ∈ rest.head?, c ≠ '"' ∧ c ≠ '\'') (enough : (quote s).length ≤ steps)
    : Quoting.read? steps (quote s ++ rest) = some (s, rest) := by
  have stops (quoting : Quoting) : Text.Stops (· == quoting.mark) rest := by
    intro c first
    obtain ⟨noQuote, noApostrophe⟩ := stops c first
    cases quoting <;> simp [Quoting.mark, noQuote, noApostrophe]
  have read := Quoting.read?_write (Quoting.holds_choose s.toList) (stops _) enough
  rwa [String.ofList_toList] at read

end RecordQuery.Toml
