import RecordQuery.Proofs.Number.Digits
import RecordQuery.Proofs.Toml.Quoting
import RecordQuery.Toml.Printer
import RecordQuery.Toml.Reader

/-! The lines that are written of a document are read one by one: a header begins a table, and a
line with a bare name, an equals sign and a value gives an entry. A row of digits is read as a whole
number, since it runs up to the end of its line, where no date and no time does.
-/

namespace RecordQuery.Toml

-----------------------------------------------------------------------------------------
-- Whole numbers
-----------------------------------------------------------------------------------------

section

variable {digits rest : List Char}

/-- What is left of some digits and the end of their line. -/
def IsDigitsLine (text : List Char) : Prop :=
  ∃ digits rest, text = digits ++ '\n' :: rest ∧ ∀ c ∈ digits, Text.isDigit c = true

/-- It starts with a digit or ends the line, so no other character comes next. -/
theorem IsDigitsLine.exists_cons {text : List Char} (line : IsDigitsLine text)
    : ∃ c rest, text = c :: rest
      ∧ ∀ other, Text.isDigit other = false → other ≠ '\n' → c ≠ other := by
  obtain ⟨digits, rest, rfl, areDigits⟩ := line
  cases digits with
  | nil => exact ⟨'\n', rest, rfl, fun other _ inLine => inLine.symm⟩
  | cons c digits =>
      refine ⟨c, _, rfl, ?_⟩
      rintro _ notDigit _ rfl
      rw [areDigits c List.mem_cons_self] at notDigit
      cases notDigit

/-- Neither a word nor a mark comes next in what is left of some digits. -/
theorem IsDigitsLine.after? {text : List Char} (line : IsDigitsLine text) {mark : Char}
    (word : List Char) (notDigit : Text.isDigit mark = false) (inLine : mark ≠ '\n')
    : after? (mark :: word) text = none := by
  obtain ⟨c, rest, rfl, differs⟩ := line.exists_cons
  have other : mark ≠ c := (differs mark notDigit inLine).symm
  rw [Toml.after?, if_neg (by simp [other])]

/-- A field of a date or time leaves what is left of some digits, if it takes any. -/
theorem IsDigitsLine.clockField? {text after : List Char} {width n : Nat} {isValid : Nat → Bool}
    (line : IsDigitsLine text) (taken : clockField? width isValid text = some (n, after))
    : IsDigitsLine after := by
  obtain ⟨digits, rest, rfl, areDigits⟩ := line
  unfold Toml.clockField? at taken
  dsimp only at taken
  split at taken
  · next valid =>
      cases taken
      simp only [Bool.and_eq_true, List.all_eq_true] at valid
      have within : width ≤ digits.length := by
        refine Nat.le_of_not_lt fun beyond => ?_
        obtain ⟨more, rfl⟩ := Nat.exists_eq_add_of_lt beyond
        have taken : '\n' ∈ (digits ++ '\n' :: rest).take (digits.length + more + 1) := by
          rw [Nat.add_assoc, List.take_length_add_append]
          exact List.mem_append_right _ List.mem_cons_self
        exact absurd (valid.1.2 _ taken) (by decide)
      rw [List.drop_append_of_le_length within]
      exact ⟨digits.drop width, rest, rfl,
        fun c member => areDigits c (List.mem_of_mem_drop member)⟩
  · cases taken

/-- A row of digits is neither a date nor a time. -/
theorem IsDigitsLine.dateTime? {text : List Char} (line : IsDigitsLine text)
    : dateTime? text = none := by
  have noDate : afterDate? text = none := by
    unfold afterDate?
    cases taken : Toml.clockField? 4 (fun _ => true) text with
    | none => rfl
    | some found =>
        have left := line.clockField? taken
        have noSign : Toml.after? ['-'] found.2 = none := left.after? [] (by decide) (by decide)
        simp only [Option.bind_eq_bind, Option.bind_some, noSign, Option.bind_none]
  have noTime : afterTime? text = none := by
    unfold afterTime?
    cases taken : Toml.clockField? 2 (fun n => decide (n < 24)) text with
    | none => rfl
    | some found =>
        have left := line.clockField? taken
        have noColon : Toml.after? [':'] found.2 = none := left.after? [] (by decide) (by decide)
        simp only [Option.bind_eq_bind, Option.bind_some, noColon, Option.bind_none]
  simp only [Toml.dateTime?, noDate, noTime, Option.bind_eq_bind, Option.bind_none]

theorem digitsAfter_cons {c : Char} (isDigit : Text.isDigit c = true) (text : List Char)
    : digitsAfter Text.isDigit (c :: text)
      = (c :: (digitsAfter Text.isDigit text).1, (digitsAfter Text.isDigit text).2) := by
  have noUnderscore : c ≠ '_' := by
    rintro rfl
    exact absurd isDigit (by decide)
  rw [digitsAfter, if_pos isDigit]
  rintro _ _ rfl
  exact absurd rfl noUnderscore

theorem digitsAfter_line (areDigits : ∀ c ∈ digits, Text.isDigit c = true)
    : digitsAfter Text.isDigit (digits ++ '\n' :: rest) = (digits, '\n' :: rest) := by
  induction digits with
  | nil => rfl
  | cons c digits ih =>
      rw [List.forall_mem_cons] at areDigits
      rw [List.cons_append, digitsAfter_cons areDigits.1, ih areDigits.2]

theorem wholeDigits?_digitsOf (n : Nat) (rest : List Char)
    : wholeDigits? (Text.digitsOf n ++ '\n' :: rest) = some (Text.digitsOf n, '\n' :: rest) := by
  by_cases zero : n = 0
  · subst zero
    rfl
  · have leading := Text.head?_digitsOf_ne zero
    obtain ⟨c, digits, row, isDigit, areDigits⟩ := Text.exists_digitsOf_eq_cons n
    rw [row] at leading ⊢
    unfold wholeDigits?
    split
    · next same =>
        cases same
        exact absurd rfl leading
    · rw [List.cons_append, digits?, if_pos isDigit, digitsAfter_line areDigits]

theorem integerValue?_natCast {n : Nat} (fits : n < twoPow 63)
    : integerValue? (n : Int) = some (.integer n) := by
  unfold integerValue?
  -- The bound is kept as it is: it is too great a number to compute with.
  generalize twoPow 63 = bound at *
  rw [if_pos (by omega)]

/-- A row of digits with neither a fraction nor a power of ten behind it is a whole number. -/
theorem decimal?_whole {text whole : List Char} (read : wholeDigits? text = some (whole, rest))
    (noFraction : fraction? rest = none) (noExponent : exponent? rest = none)
    : decimal? false text
      = (integerValue? (Text.digitsValue whole)).map fun value => (value, rest) := by
  simp only [decimal?, read, Option.bind_eq_bind, Option.bind_some, noFraction, noExponent,
    Option.map_none, Option.getD_none, Option.isNone_none, Bool.and_self, if_true,
    Bool.false_eq_true, if_false]
  cases integerValue? (Text.digitsValue whole) <;> rfl

/-- Digits have neither a sign in front nor a letter behind the first of them, as numbers to other
bases do.
-/
theorem number?_digits {c : Char} {text : List Char} (isDigit : Text.isDigit c = true)
    (line : IsDigitsLine text)
    : number? (c :: text) = unsigned? false (c :: text) := by
  obtain ⟨d, rest, rfl, differs⟩ := line.exists_cons
  unfold number?
  split
  · next same =>
      cases same
      exact absurd isDigit (by decide)
  · next same =>
      cases same
      exact absurd isDigit (by decide)
  · next same =>
      cases same
      exact absurd rfl (differs _ (by decide) (by decide))
  · next same =>
      cases same
      exact absurd rfl (differs _ (by decide) (by decide))
  · next same =>
      cases same
      exact absurd rfl (differs _ (by decide) (by decide))
  · rfl

theorem scalar?_digitsOf {n : Nat} (fits : n < twoPow 63) (rest : List Char)
    : scalar? (Text.digitsOf n ++ '\n' :: rest) = some (.integer n, '\n' :: rest) := by
  have line : IsDigitsLine (Text.digitsOf n ++ '\n' :: rest) :=
    ⟨_, rest, rfl, fun c => Text.isDigit_of_mem_digitsOf⟩
  have asNumber : number? (Text.digitsOf n ++ '\n' :: rest)
      = unsigned? false (Text.digitsOf n ++ '\n' :: rest) := by
    obtain ⟨c, digits, row, isDigit, areRest⟩ := Text.exists_digitsOf_eq_cons n
    rw [row]
    exact number?_digits isDigit ⟨digits, rest, rfl, areRest⟩
  have asDecimal := decimal?_whole (wholeDigits?_digitsOf n rest) rfl rfl
  rw [Text.digitsValue_digitsOf, integerValue?_natCast fits] at asDecimal
  rw [scalar?, line.after? _ (by decide) (by decide), line.after? _ (by decide) (by decide),
    line.dateTime?]
  dsimp only
  rw [asNumber, unsigned?, line.after? _ (by decide) (by decide),
    line.after? _ (by decide) (by decide)]
  exact asDecimal

end

-----------------------------------------------------------------------------------------
-- Bare names
-----------------------------------------------------------------------------------------

section

variable {c : Char} {name : String} {rest : List Char} {size : Nat}

/-- A name that can stand as it is. -/
structure IsBareName (name : String) : Prop where
  nonempty : name.toList ≠ []
  chars : ∀ c ∈ name.toList, isBare c = true

theorem isBareName_iff {name : String}
    : (!name.toList.isEmpty && name.toList.all isBare) = true ↔ IsBareName name := by
  simp only [Bool.and_eq_true, Bool.not_eq_true', List.isEmpty_eq_false_iff, List.all_eq_true]
  exact ⟨fun ⟨nonempty, chars⟩ => ⟨nonempty, chars⟩, fun bare => ⟨bare.nonempty, bare.chars⟩⟩

instance (name : String) : Decidable (IsBareName name) :=
  decidable_of_iff _ isBareName_iff

theorem ne_of_isBare {d : Char} (bare : isBare c = true) (other : isBare d = false) : c ≠ d := by
  rintro rfl
  rw [other] at bare
  cases bare

theorem isText_of_isBare (bare : isBare c = true) : isText c = true := by
  have visible : 0x20 ≤ c.toNat ∧ c.toNat ≤ 0x7A := by
    simp only [isBare, Text.isDigit, Bool.or_eq_true, Bool.and_eq_true, decide_eq_true_eq,
      beq_iff_eq, Char.le_def, UInt32.le_iff_toNat_le] at bare
    rcases bare with (((digit | small) | great) | rfl) | rfl
    · exact ⟨Nat.le_trans (by decide) digit.1, Nat.le_trans digit.2 (by decide)⟩
    · exact ⟨Nat.le_trans (by decide) small.1, Nat.le_trans small.2 (by decide)⟩
    · exact ⟨Nat.le_trans (by decide) great.1, Nat.le_trans great.2 (by decide)⟩
    · decide
    · decide
  simp only [isText, Bool.or_eq_true, Bool.and_eq_true, decide_eq_true_eq, bne_iff_ne]
  omega

theorem isSpace_of_isBare (bare : isBare c = true) : isSpace c = false := by
  have noSpace : c ≠ ' ' := ne_of_isBare bare (by decide)
  have noTab : c ≠ '\t' := ne_of_isBare bare (by decide)
  simp [isSpace, noSpace, noTab]

theorem isBare_of_isDigit (isDigit : Text.isDigit c = true) : isBare c = true := by
  simp [isBare, isDigit]

theorem open?_of_isBare (bare : isBare c = true) (rest : List Char)
    : Quoting.open? (c :: rest) = none := by
  have noMark (quoting : Quoting) : c ≠ quoting.mark :=
    ne_of_isBare bare (by cases quoting <;> decide)
  rw [Quoting.open?]
  · exact fun _ same => noMark .longBasic (List.cons.inj same).1
  · exact fun _ same => noMark .basic (List.cons.inj same).1
  · exact fun _ same => noMark .longLiteral (List.cons.inj same).1
  · exact fun _ same => noMark .literal (List.cons.inj same).1

theorem skipSpace_cons (solid : isSpace c = false) (rest : List Char)
    : skipSpace (c :: rest) = c :: rest :=
  List.dropWhile_cons_of_neg (by simp [solid])

/-- A bare name is a character that is bare, and what follows it. -/
theorem IsBareName.exists_cons (bare : IsBareName name)
    : ∃ c tail, name.toList = c :: tail ∧ isBare c = true := by
  cases row : name.toList with
  | nil => exact absurd row bare.nonempty
  | cons c tail => exact ⟨c, tail, rfl, bare.chars c (row ▸ List.mem_cons_self)⟩

theorem name?_bare (bare : IsBareName name) (stops : Text.Stops isBare rest)
    : name? size (name.toList ++ rest) = some (name, rest) := by
  have unquoted : Quoting.readLine? size (name.toList ++ rest) = none := by
    obtain ⟨c, tail, row, bareChar⟩ := bare.exists_cons
    rw [row, List.cons_append, Quoting.readLine?]
    · exact fun _ same => ne_of_isBare bareChar (by decide) (List.cons.inj same).1
    · exact fun _ same => ne_of_isBare bareChar (by decide) (List.cons.inj same).1
  unfold name?
  rw [unquoted, Text.takeWhile_append_of_stops bare.chars stops]
  dsimp only
  rw [if_neg (by simpa using bare.nonempty), List.drop_left, String.ofList_toList]

/-- A bare name is a key, where no other name follows behind a dot. -/
theorem key?_bare (bare : IsBareName name) (stops : Text.Stops isBare rest)
    (single : ∀ others, skipSpace rest ≠ '.' :: others) (enough : size ≠ 0)
    : key? size (name.toList ++ rest) = some (⟨[], name⟩, skipSpace rest) := by
  obtain ⟨steps, rfl⟩ := Nat.exists_eq_add_one_of_ne_zero enough
  have start : skipSpace (name.toList ++ rest) = name.toList ++ rest := by
    obtain ⟨c, tail, row, bareChar⟩ := bare.exists_cons
    rw [row, List.cons_append, skipSpace_cons (isSpace_of_isBare bareChar)]
  have names : names? (steps + 1) (steps + 1) (name.toList ++ rest)
      = some ([name], skipSpace rest) := by
    rw [names?, start, name?_bare bare stops]
    simp only [Option.bind_eq_bind, Option.bind_some]
  rw [key?, names]
  rfl

end

-----------------------------------------------------------------------------------------
-- Values
-----------------------------------------------------------------------------------------

namespace Field

/-- The value of a field. -/
def value : Field → Value
  | .text s => .string s
  | .count n => .integer n

variable {field : Field} {rest : List Char} {size : Nat}

/-- What is written of a value starts with a quotation mark or with a digit. -/
theorem exists_cons (field : Field)
    : ∃ c tail, field.chars = c :: tail ∧ (Text.isDigit c = true ∨ c = '"' ∨ c = '\'') := by
  cases field with
  | count n =>
      obtain ⟨c, tail, row, isDigit, _⟩ := Text.exists_digitsOf_eq_cons n
      exact ⟨c, tail, row, .inl isDigit⟩
  | text s =>
      rw [chars, quote, Quoting.write, Quoting.delimiter]
      cases Quoting.choose s.toList with
      | basic | longBasic => exact ⟨'"', _, rfl, .inr (.inl rfl)⟩
      | literal | longLiteral => exact ⟨'\'', _, rfl, .inr (.inr rfl)⟩

/-- A value that is written is read back up to the end of its line. -/
theorem simple?_chars (writable : field.isWritable = true) (enough : field.chars.length ≤ size)
    : simple? size (field.chars ++ '\n' :: rest) = some (field.value, '\n' :: rest) := by
  cases field with
  | text s =>
      have stops : ∀ c ∈ ('\n' :: rest).head?, c ≠ '"' ∧ c ≠ '\'' := by
        rintro c ⟨⟩
        decide
      have read := read?_quote stops enough
      unfold simple?
      cases opened : Quoting.open? (chars (.text s) ++ '\n' :: rest) with
      | none =>
          rw [Quoting.read?, ← chars, opened] at read
          cases read
      | some found =>
          dsimp only
          rw [chars, read]
          rfl
  | count n =>
      have fits : n < twoPow 63 := of_decide_eq_true writable
      have unquoted : Quoting.open? (chars (.count n) ++ '\n' :: rest) = none := by
        obtain ⟨c, tail, row, isDigit, _⟩ := Text.exists_digitsOf_eq_cons n
        rw [chars, row]
        exact open?_of_isBare (isBare_of_isDigit isDigit) _
      rw [simple?, unquoted]
      exact scalar?_digitsOf fits rest

theorem value?_chars (writable : field.isWritable = true) (enough : field.chars.length ≤ size)
    : value? size maxNesting (field.chars ++ '\n' :: rest) = some (field.value, '\n' :: rest) := by
  rw [← simple?_chars writable enough]
  obtain ⟨c, tail, row, start⟩ := exists_cons field
  have noBracket : c ≠ '[' := by
    rintro rfl
    exact absurd start (by decide)
  have noBrace : c ≠ '\x7b' := by
    rintro rfl
    exact absurd start (by decide)
  rw [row, List.cons_append, maxNesting, value?]
  · exact fun _ same => noBracket (List.cons.inj same).1
  · exact fun _ same => noBrace (List.cons.inj same).1

theorem skipSpace_chars (field : Field) (rest : List Char)
    : skipSpace (field.chars ++ rest) = field.chars ++ rest := by
  obtain ⟨c, tail, row, start⟩ := exists_cons field
  rw [row]
  refine skipSpace_cons ?_ _
  rcases start with isDigit | rfl | rfl
  · exact isSpace_of_isBare (isBare_of_isDigit isDigit)
  · rfl
  · rfl

end Field

-----------------------------------------------------------------------------------------
-- Lines
-----------------------------------------------------------------------------------------

section

variable {name : String} {field : Field} {rest : List Char} {size : Nat}

theorem lineEnd?_newline (rest : List Char) : lineEnd? ('\n' :: rest) = some rest := rfl

theorem keyValue?_fieldLine (bare : IsBareName name) (writable : field.isWritable = true)
    (enough : (fieldLine (name, field)).length ≤ size) (rest : List Char)
    : keyValue? (value? size maxNesting) size (fieldLine (name, field) ++ rest)
      = some ((⟨[], name⟩, field.value), '\n' :: rest) := by
  have spelled : fieldLine (name, field) ++ rest
      = name.toList ++ ' ' :: '=' :: ' ' :: (field.chars ++ '\n' :: rest) := by
    simp [fieldLine]
  have fits : field.chars.length ≤ size ∧ size ≠ 0 := by
    simp only [fieldLine, List.length_append, List.length_cons] at enough
    omega
  have behind : skipSpace (' ' :: '=' :: ' ' :: (field.chars ++ '\n' :: rest))
      = '=' :: ' ' :: (field.chars ++ '\n' :: rest) := rfl
  have key : key? size (name.toList ++ ' ' :: '=' :: ' ' :: (field.chars ++ '\n' :: rest))
      = some (⟨[], name⟩, '=' :: ' ' :: (field.chars ++ '\n' :: rest)) :=
    key?_bare bare (Text.stops_cons rfl _) (by simp [behind]) fits.2
  have sign : after? ['='] ('=' :: ' ' :: (field.chars ++ '\n' :: rest))
      = some (' ' :: (field.chars ++ '\n' :: rest)) := rfl
  have start : skipSpace (' ' :: (field.chars ++ '\n' :: rest)) = field.chars ++ '\n' :: rest :=
    Field.skipSpace_chars field _
  simp only [keyValue?, spelled, key, Option.bind_eq_bind, Option.bind_some, sign, start,
    Field.value?_chars writable fits.1]

/-- The line of a field gives an entry under its name. -/
theorem statement?_fieldLine (bare : IsBareName name) (writable : field.isWritable = true)
    (enough : (fieldLine (name, field)).length ≤ size)
    : statement? size (fieldLine (name, field) ++ rest)
      = some (.entry ⟨[], name⟩ field.value, rest) := by
  have read := keyValue?_fieldLine bare writable enough rest
  obtain ⟨c, tail, row, bareChar⟩ := bare.exists_cons
  have noBracket : c ≠ '[' := ne_of_isBare bareChar (by decide)
  have start : fieldLine (name, field) ++ rest
      = c :: (tail ++ [' ', '=', ' '] ++ field.chars ++ ['\n'] ++ rest) := by
    simp [fieldLine, row]
  rw [start] at read ⊢
  rw [statement?]
  · simp only [read, Option.bind_eq_bind, Option.bind_some, lineEnd?_newline]
  · exact fun _ same => noBracket (List.cons.inj same).1
  · exact fun _ same => noBracket (List.cons.inj same).1

/-- A header with a bare name begins its table. -/
theorem statement?_header (bare : IsBareName name) (enough : size ≠ 0)
    : statement? size ('[' :: name.toList ++ [']', '\n'] ++ rest)
      = some (.table ⟨[], name⟩, rest) := by
  have behind : skipSpace (']' :: '\n' :: rest) = ']' :: '\n' :: rest := rfl
  have key : key? size (name.toList ++ ']' :: '\n' :: rest)
      = some (⟨[], name⟩, ']' :: '\n' :: rest) :=
    key?_bare bare (Text.stops_cons rfl _) (by simp [behind]) enough
  have close : after? [']'] (']' :: '\n' :: rest) = some ('\n' :: rest) := rfl
  have read : header? size [']'] (name.toList ++ ']' :: '\n' :: rest)
      = some (⟨[], name⟩, rest) := by
    simp only [header?, key, Option.bind_eq_bind, Option.bind_some, close, lineEnd?_newline]
  obtain ⟨c, tail, row, bareChar⟩ := bare.exists_cons
  have noBracket : c ≠ '[' := ne_of_isBare bareChar (by decide)
  have start : '[' :: name.toList ++ [']', '\n'] ++ rest
      = '[' :: (name.toList ++ ']' :: '\n' :: rest) := by
    simp
  rw [start, statement?, read]
  · rfl
  · intro _ same
    rw [row] at same
    exact noBracket (List.cons.inj same).1

/-- A line that starts with a character of a statement is not empty. -/
theorem lineEnd?_text {c : Char} (isText : isText c = true) (solid : isSpace c = false)
    (noComment : c ≠ '#') (text : List Char)
    : lineEnd? (c :: text) = none := by
  unfold lineEnd?
  rw [skipSpace_cons solid]
  split
  · next same => exact absurd (List.cons.inj same).1 noComment
  · exact Quoting.lineBreak?_text isText text

/-- One step of reading a document takes a line, with the statement that there may be in it. -/
structure TakesLine (size : Nat) (line : List Char) (found : Option Statement) : Prop where
  nonempty : line ≠ []
  step : ∀ steps rest, statements? size (steps + 1) (line ++ rest)
    = (statements? size steps rest).map (found.toList ++ ·)

theorem takesLine_blank (size : Nat) : TakesLine size ['\n'] none := by
  refine ⟨List.cons_ne_nil _ _, fun steps rest => ?_⟩
  rw [List.singleton_append, statements?, if_neg (by simp), lineEnd?_newline]
  dsimp only
  cases statements? size steps rest <;> rfl

/-- A line is taken where its statement is read and it does not look like an empty one. -/
theorem takesLine_statement {line : List Char} {statement : Statement}
    (start : ∃ c tail, line = c :: tail ∧ isText c = true ∧ isSpace c = false ∧ c ≠ '#')
    (read : ∀ rest, statement? size (line ++ rest) = some (statement, rest))
    : TakesLine size line (some statement) := by
  obtain ⟨c, tail, rfl, isText, solid, noComment⟩ := start
  refine ⟨List.cons_ne_nil _ _, fun steps rest => ?_⟩
  have begins : skipSpace (c :: tail ++ rest) = c :: tail ++ rest := skipSpace_cons solid _
  have full : lineEnd? (c :: tail ++ rest) = none := lineEnd?_text isText solid noComment _
  rw [statements?, if_neg (by simp), full]
  dsimp only
  rw [begins, read rest]
  simp only [Option.bind_eq_bind, Option.bind_some]
  cases statements? size steps rest <;> rfl

/-- Lines are taken one by one to the end of the document. -/
theorem statements?_flatMap {lines : List (List Char × Option Statement)}
    (taken : ∀ line ∈ lines, TakesLine size line.1 line.2) {steps : Nat}
    (enough : (lines.flatMap Prod.fst).length ≤ steps)
    : statements? size steps (lines.flatMap Prod.fst)
      = some (lines.flatMap fun line => line.2.toList) := by
  induction lines generalizing steps with
  | nil => cases steps <;> rfl
  | cons line lines ih =>
      rw [List.forall_mem_cons] at taken
      rw [List.flatMap_cons, List.length_append] at enough
      have some := List.length_pos_iff.mpr taken.1.nonempty
      obtain ⟨steps, rfl⟩ := Nat.exists_eq_add_one_of_ne_zero (n := steps) (by omega)
      rw [List.flatMap_cons, taken.1.step, ih taken.2 (by omega), List.flatMap_cons]
      rfl

end

end RecordQuery.Toml
