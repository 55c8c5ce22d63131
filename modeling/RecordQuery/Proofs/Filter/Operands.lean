import RecordQuery.Proofs.Filter.WordOperands

/-! Operands and the arguments of calls, read and written. Behind an operand comes the end, a comma,
a closing parenthesis or a word, so nothing that follows could belong to the operand.
-/

namespace RecordQuery.Scan

open Grammar

/-- What may follow an operand: the end, a comma, a closing parenthesis or a word. -/
def EndsOperand (rest : List Char) : Prop :=
  ∀ c ∈ (afterBlanks rest).head?, c = ',' ∨ c = ')' ∨ Text.isWordChar c = true

theorem EndsOperand.head? {rest : List Char} {c : Char} (h : EndsOperand rest)
    (first : rest.head? = some c)
    : Text.isBlank c = true ∨ c = ',' ∨ c = ')' ∨ Text.isWordChar c = true := by
  cases blank : Text.isBlank c with
  | true => exact .inl rfl
  | false =>
      obtain ⟨more, rfl⟩ := List.head?_eq_some_iff.mp first
      refine .inr (h c ?_)
      rw [afterBlanks_cons blank, List.head?_cons]
      rfl

/-- No mark but a comma and a closing parenthesis follows an operand. -/
theorem EndsOperand.head?_ne {rest : List Char} (h : EndsOperand rest) (mark : Char)
    (solid : Text.isBlank mark = false) (other : mark ≠ ',' ∧ mark ≠ ')')
    (noWord : Text.isWordChar mark = false)
    : rest.head? ≠ some mark := by
  intro first
  rcases h.head? first with blank | comma | closing | word
  · simp [solid] at blank
  · exact other.1 comma
  · exact other.2 closing
  · simp [noWord] at word

theorem ignoresBlanks_operandWith (arguments : Phrase (List Operand))
    : IgnoresBlanks (OperandWith arguments) := by
  intro operand text text' rest same h
  cases h with
  | string s spelling => exact .string s (same ▸ spelling)
  | typed type s known spelling => exact .typed type s known (same ▸ spelling)
  | number numeral written nonempty denotes typed spelling whole =>
      exact .number numeral written nonempty denotes typed (same ▸ spelling) whole
  | constant known spelling =>
      exact .constant known ⟨ignoresBlanks_word same spelling.1, spelling.2⟩
  | call function name list arity =>
      exact .call function (ignoresBlanks_word same name) list arity
  | path path isPath spelling => exact .path path isPath (ignoresBlanks_word same spelling)

theorem ignoresBlanks_arguments (nesting : Nat) : IgnoresBlanks (SpellsArguments nesting) := by
  intro operands text text' rest same h
  cases nesting with
  | zero => exact h
  | succ nesting =>
      cases h with
      | empty opening closing => exact .empty (same.symm.trans opening) closing
      | parentheses opening list closing =>
          exact .parentheses (same.symm.trans opening) list closing

theorem opens_arguments (nesting : Nat) : Opens (SpellsArguments nesting) := by
  intro operands text rest h
  cases nesting with
  | zero => exact absurd h id
  | succ nesting =>
      obtain ⟨inner, opening⟩ : ∃ inner, Mark '(' text inner := by
        cases h with
        | empty opening => exact ⟨_, opening⟩
        | parentheses opening => exact ⟨_, opening⟩
      have start : afterBlanks text = '(' :: inner := opening
      rw [start, List.head?_cons]

-----------------------------------------------------------------------------------------
-- An operand is known by its first character
-----------------------------------------------------------------------------------------

section OperandWith

variable {arguments : Scan (List Operand)} {phrase : Phrase (List Operand)}

/-- An operand is quoted, a number or starts with a word, by the first character. -/
theorem run_operandWith {s : Scanner} {c : Char} (first : s.skipBlanks.peek? = some c)
    : (operandWith arguments).run s
      = if c = '\'' then
          (do return .literal (.string (← quoted)) : Scan Operand).run s.skipBlanks
        else if Text.isDigit c ∨ c = '-' then number.run s.skipBlanks
        else if Text.isWordChar c then (wordOperand arguments).run s.skipBlanks
        else .error (.parse (.unexpected c.toString s.skipBlanks.position)) := by
  rw [operandWith, run_bind_of_ok (run_skipBlanks s), run_bind_of_ok (run_get _), first]
  dsimp only
  split
  · rfl
  · split
    · rfl
    · split
      · rfl
      · rfl

/-- An operand that starts with a word is read by that word. -/
theorem run_operandWith_of_word {s : Scanner} {c : Char} (first : s.skipBlanks.peek? = some c)
    (word : Text.isWordChar c = true) (digit : Text.isDigit c = false)
    : (operandWith arguments).run s = (wordOperand arguments).run s.skipBlanks := by
  have other (mark : Char) (noWord : Text.isWordChar mark = false) : c ≠ mark := by
    intro equal
    subst equal
    simp [noWord] at word
  rw [run_operandWith first, if_neg (other '\'' (by decide)), if_neg, if_pos word]
  intro held
  rcases held with isDigit | minus
  · simp [digit] at isDigit
  · exact other '-' (by decide) minus

/-- What is read as an operand is one. -/
theorem isSound_operandWith (sound : IsSound arguments phrase) (blanks : IgnoresBlanks phrase)
    : IsSound (operandWith arguments) (OperandWith phrase) := by
  intro s s' operand h
  have solid : afterBlanks s.skipBlanks.rest = s.skipBlanks.rest := by simp
  suffices OperandWith phrase operand s.skipBlanks.rest s'.rest ∧ s'.joins = s.skipBlanks.joins from
    ⟨ignoresBlanks_operandWith phrase (by simp) this.1, this.2⟩
  cases first : s.skipBlanks.peek? with
  | none =>
      rw [operandWith, run_bind_of_ok (run_skipBlanks s), run_bind_of_ok (run_get _), first] at h
      simp at h
  | some c =>
      rw [run_operandWith first] at h
      split at h
      · next quote =>
          obtain ⟨text, m, read, last⟩ := run_bind_eq_ok.mp h
          cases last
          obtain ⟨spelling, joins⟩ := quoted_of_run (quote ▸ first) read
          exact ⟨.string text (solid.trans spelling), joins⟩
      · split at h
        · obtain ⟨joins, numeral, suffix, value, written, nonempty, denotes, typed, rfl, spelling,
            whole⟩ := number_of_run h
          exact ⟨.number numeral written nonempty denotes typed (solid.trans spelling) whole, joins⟩
        · next digit =>
            split at h
            · refine operand_of_wordOperand sound blanks solid ?_ h
              intro d same
              rw [Scanner.peek?, same] at first
              cases first
              simpa using fun isDigit => digit (.inl isDigit)
            · simp at h

theorem exists_head_of_isWord {word : String} (h : IsWord word)
    : ∃ c, word.toList.head? = some c ∧ Text.isWordChar c = true ∧ Text.isDigit c = false := by
  obtain ⟨nonempty, chars, digit⟩ := h
  cases start : word.toList with
  | nil => exact absurd (String.toList_eq_nil_iff.mp start) nonempty
  | cons c rest => exact ⟨c, rfl, chars c (by simp [start]), digit c (by simp [start])⟩

theorem exists_head_of_isOperandPath {path : PropertyPath} (h : IsOperandPath path)
    : ∃ c, path.text.toList.head? = some c ∧ Text.isWordChar c = true
        ∧ Text.isDigit c = false := by
  obtain ⟨name, more, first, start, _⟩ := takeWhile_text h.identifiers (Text.stops_nil _)
  have member : name ∈ path.names := List.mem_of_mem_head? first
  cases chars : name.toList with
  | nil => exact absurd (String.toList_eq_nil_iff.mp chars) (path.isNamed name member)
  | cons c rest =>
      have head : path.text.toList.head? = some c := by simp [start, chars]
      exact ⟨c, head, h.identifiers name member c (by simp [chars]), h.digit c head⟩

/-- An operand starts with a quote, a sign or an identifier character. -/
theorem exists_head_of_operandWith {operand : Operand} {text rest : List Char}
    (h : OperandWith phrase operand text rest)
    : ∃ c, (afterBlanks text).head? = some c
        ∧ (c = '\'' ∨ c = '-' ∨ Text.isWordChar c = true) := by
  have starts {chars more : List Char} {c : Char} (head : chars.head? = some c)
      (spelling : afterBlanks text = chars ++ more) : (afterBlanks text).head? = some c := by
    obtain ⟨tail, rfl⟩ := List.head?_eq_some_iff.mp head
    rw [spelling]
    rfl
  cases h with
  | string s spelling => exact ⟨'\'', starts rfl spelling, .inl rfl⟩
  | typed type s known spelling =>
      obtain ⟨c, head, word, _⟩ := exists_head_of_isWord (isWord_literalType known)
      exact ⟨c, starts head spelling, .inr (.inr word)⟩
  | number numeral written nonempty denotes typed spelling whole =>
      obtain ⟨c, head, digit | sign⟩ := written.exists_head nonempty
      · exact ⟨c, starts head spelling, .inr (.inr (Text.isWordChar_of_isDigit digit))⟩
      · exact ⟨c, starts head spelling, .inr (.inl sign)⟩
  | constant known spelling =>
      obtain ⟨c, head, word, _⟩ := exists_head_of_isWord (isWord_constant known)
      exact ⟨c, starts head spelling.1.1, .inr (.inr word)⟩
  | call function name list arity =>
      obtain ⟨c, head, word, _⟩ := exists_head_of_isWord function.isWord_name
      exact ⟨c, starts head name.1, .inr (.inr word)⟩
  | path path isPath spelling =>
      obtain ⟨c, head, word, _⟩ := exists_head_of_isOperandPath isPath
      exact ⟨c, starts head spelling.1, .inr (.inr word)⟩

/-- No other mark starts an operand. -/
theorem head?_operandWith_ne {mark : Char} (quote : mark ≠ '\'') (sign : mark ≠ '-')
    (noWord : Text.isWordChar mark = false) {operand : Operand} {text rest : List Char}
    (h : OperandWith phrase operand text rest)
    : (afterBlanks text).head? ≠ some mark := by
  intro first
  obtain ⟨c, head, starts⟩ := exists_head_of_operandWith h
  rw [first] at head
  cases head
  rcases starts with same | same | word
  · exact quote same
  · exact sign same
  · simp [noWord] at word

/-- An operand is read where one is written in front of something that ends it. -/
theorem isComplete_operandWith (complete : IsComplete (fun _ => True) arguments phrase)
    (blanks : IgnoresBlanks phrase) (opens : Opens phrase)
    : IsComplete EndsOperand (operandWith arguments) (OperandWith phrase) := by
  intro s operand rest h ends
  have quote := ends.head?_ne '\'' (by decide) (by decide) (by decide)
  have slash := ends.head?_ne '/' (by decide) (by decide) (by decide)
  have point := ends.head?_ne '.' (by decide) (by decide) (by decide)
  have starts {chars more : List Char} {c : Char} (head : chars.head? = some c)
      (spelling : afterBlanks s.rest = chars ++ more) : s.skipBlanks.peek? = some c := by
    obtain ⟨tail, rfl⟩ := List.head?_eq_some_iff.mp head
    rw [Scanner.peek?_skipBlanks, spelling]
    rfl
  cases h with
  | string text spelling =>
      have first : s.skipBlanks.peek? = some '\'' := starts rfl spelling
      obtain ⟨s', read, last, joins⟩ :=
        run_quoted (s.rest_skipBlanks.trans spelling) quote
      refine ⟨s', ?_, last, joins⟩
      rw [run_operandWith first, if_pos rfl, run_bind_of_ok read, run_pure]
  | typed type text known spelling =>
      obtain ⟨c, head, word, digit⟩ := exists_head_of_isWord (isWord_literalType known)
      rw [run_operandWith_of_word (starts head spelling) word digit]
      exact run_wordOperand_of_typed known (s.rest_skipBlanks.trans spelling) quote
  | number numeral written nonempty denotes typed spelling whole =>
      obtain ⟨c, head, sign⟩ := written.exists_head nonempty
      have noQuote : c ≠ '\'' := by
        intro equal
        subst equal
        revert sign
        decide
      rw [run_operandWith (starts head spelling), if_neg noQuote, if_pos sign]
      exact run_number written nonempty denotes typed (s.rest_skipBlanks.trans spelling) whole point
  | constant known spelling =>
      obtain ⟨c, head, word, digit⟩ := exists_head_of_isWord (isWord_constant known)
      rw [run_operandWith_of_word (starts head spelling.1.1) word digit]
      exact run_wordOperand_of_constant known (s.rest_skipBlanks.trans spelling.1.1) spelling.1.2
        spelling.2
  | call function name list arity =>
      obtain ⟨c, head, word, digit⟩ := exists_head_of_isWord function.isWord_name
      rw [run_operandWith_of_word (starts head name.1) word digit]
      exact run_wordOperand_of_call complete blanks opens (s.rest_skipBlanks.trans name.1) name.2
        list arity
  | path path isPath spelling =>
      obtain ⟨c, head, word, digit⟩ := exists_head_of_isOperandPath isPath
      rw [run_operandWith_of_word (starts head spelling.1) word digit]
      refine run_wordOperand_of_path isPath (s.rest_skipBlanks.trans spelling.1) spelling.2 slash
        quote (fun opening => ?_)
      have follows := ends '(' opening
      revert follows
      decide

end OperandWith

-----------------------------------------------------------------------------------------
-- Arguments are no longer than the text they are read from
-----------------------------------------------------------------------------------------

section Arguments

variable {operand : Scan Operand} {phrase : Phrase Operand}

/-- No phrase is longer than the text it starts. -/
def Shortens {α : Type} (phrase : Phrase α) : Prop :=
  ∀ ⦃a : α⦄ ⦃text rest : List Char⦄, phrase a text rest → rest.length ≤ text.length

theorem length_afterBlanks (text : List Char) : (afterBlanks text).length ≤ text.length := by
  have shorter : afterBlanks text <:+ text := List.dropWhile_suffix _
  exact shorter.length_le

theorem length_of_spelling {text spelled rest : List Char} (h : afterBlanks text = spelled ++ rest)
    : rest.length + spelled.length ≤ text.length := by
  have shorter := length_afterBlanks text
  rw [h, List.length_append] at shorter
  omega

theorem length_of_mark {mark : Char} {text rest : List Char} (h : Mark mark text rest)
    : rest.length < text.length := by
  have spelling : afterBlanks text = [mark] ++ rest := h
  exact length_of_spelling spelling

theorem shortens_operandWith {arguments : Phrase (List Operand)} (h : Shortens arguments)
    : Shortens (OperandWith arguments) := by
  intro operand text rest spelled
  cases spelled with
  | string s spelling => exact Nat.le_of_add_right_le (length_of_spelling spelling)
  | typed type s known spelling =>
      rw [← List.append_assoc] at spelling
      exact Nat.le_of_add_right_le (length_of_spelling spelling)
  | number numeral written nonempty denotes typed spelling whole =>
      rw [← List.append_assoc] at spelling
      exact Nat.le_of_add_right_le (length_of_spelling spelling)
  | constant known spelling => exact Nat.le_of_add_right_le (length_of_spelling spelling.1.1)
  | call function name list arity =>
      exact Nat.le_trans (h list) (Nat.le_of_add_right_le (length_of_spelling name.1))
  | path path isPath spelling => exact Nat.le_of_add_right_le (length_of_spelling spelling.1)

theorem shortens_listed (h : Shortens phrase) : Shortens (Listed phrase) := by
  intro operands text rest list
  induction list with
  | one spelling => exact h spelling
  | cons spelling comma list ih =>
      exact Nat.le_trans ih (Nat.le_trans (Nat.le_of_lt (length_of_mark comma)) (h spelling))

theorem shortens_arguments (nesting : Nat) : Shortens (SpellsArguments nesting) := by
  induction nesting with
  | zero => exact fun _ _ _ spelled => absurd spelled id
  | succ nesting ih =>
      intro operands text rest spelled
      cases spelled with
      | empty opening closing =>
          exact Nat.le_of_lt (Nat.lt_trans (length_of_mark closing) (length_of_mark opening))
      | parentheses opening list closing =>
          have inside := shortens_listed (shortens_operandWith ih) list
          have before := length_of_mark opening
          have behind := length_of_mark closing
          omega

theorem ignoresBlanks_listed (blanks : IgnoresBlanks phrase) : IgnoresBlanks (Listed phrase) := by
  intro operands text text' rest same h
  cases h with
  | one spelling => exact .one (blanks same spelling)
  | cons spelling comma list => exact .cons (blanks same spelling) comma list

/-- A list is read where the steps are more than the text is long. The reader goes on over the white
space behind the list.
-/
theorem listed_of_operandList (sound : IsSound operand phrase) (shortens : Shortens phrase)
    {steps : Nat} {s s' : Scanner} {operands : List Operand} (enough : s.rest.length < steps)
    (h : (operandList operand steps).run s = .ok (operands, s'))
    : ∃ rest, Listed phrase operands s.rest rest ∧ afterBlanks rest = s'.rest
        ∧ s'.joins = s.joins := by
  induction steps generalizing s operands with
  | zero => exact absurd enough (Nat.not_lt_zero _)
  | succ steps ih =>
      obtain ⟨first, m, read, h⟩ := run_bind_eq_ok.mp h
      obtain ⟨spelling, joins⟩ := sound read
      rw [run_bind_of_ok (run_skipBlanks m), run_bind_of_ok (run_peek? _)] at h
      split at h
      · next comma =>
          obtain ⟨tail, left⟩ := List.head?_eq_some_iff.mp comma
          rw [run_bind_of_ok (run_advance ..)] at h
          obtain ⟨others, m', more, last⟩ := run_bind_eq_ok.mp h
          cases last
          have mark : Mark ',' m.rest (m.skipBlanks.advance 1).rest := by
            rw [Mark, ← Scanner.rest_skipBlanks, Scanner.rest_advance, left, List.drop_one,
              List.tail_cons]
          -- the comma makes the text shorter than the steps that are left
          have before := shortens spelling
          have shorter := length_of_mark mark
          obtain ⟨rest, list, last, count⟩ := ih (by omega) more
          exact ⟨rest, .cons spelling mark list, last, count.trans joins⟩
      · cases h
        exact ⟨m.rest, .one spelling, by simp, joins⟩

/-- Behind a comma or a closing parenthesis an operand has ended. -/
theorem endsOperand_of_mark {mark : Char} {text rest : List Char} (h : Mark mark text rest)
    (ends : mark = ',' ∨ mark = ')')
    : EndsOperand text := by
  intro c first
  rw [show afterBlanks text = mark :: rest from h, List.head?_cons, Option.mem_some_iff] at first
  subst first
  rcases ends with comma | closing
  · exact .inl comma
  · exact .inr (.inl closing)

/-- A list is read where one is written in parentheses, by induction on the list. -/
theorem run_operandList (complete : IsComplete EndsOperand operand phrase)
    (shortens : Shortens phrase) {operands : List Operand} {text last rest : List Char}
    (list : Listed phrase operands text last) (closing : Mark ')' last rest)
    {steps : Nat} {s : Scanner} (start : s.rest = text) (enough : text.length < steps)
    : ∃ s', (operandList operand steps).run s = .ok (operands, s') ∧ s'.rest = afterBlanks last
        ∧ s'.joins = s.joins := by
  induction list generalizing steps s with
  | one spelling =>
      obtain ⟨steps, rfl⟩ := Nat.exists_eq_add_one_of_ne_zero (Nat.ne_zero_of_lt enough)
      obtain ⟨m, read, left, joins⟩ :=
        complete (start ▸ spelling) (endsOperand_of_mark closing (.inr rfl))
      refine ⟨m.skipBlanks, ?_, by simp [left], joins⟩
      rw [operandList, run_bind_of_ok read, run_bind_of_ok (run_skipBlanks m),
        run_bind_of_ok (run_peek? _), if_neg, run_pure]
      rw [Scanner.peek?_skipBlanks, left,
        show afterBlanks _ = ')' :: rest from closing]
      exact fun same => absurd (Option.some.inj same) (by decide)
  | @cons first others text middle inner last spelling comma list ih =>
      obtain ⟨steps, rfl⟩ := Nat.exists_eq_add_one_of_ne_zero (Nat.ne_zero_of_lt enough)
      obtain ⟨m, read, left, joins⟩ :=
        complete (start ▸ spelling) (endsOperand_of_mark comma (.inl rfl))
      have before := shortens spelling
      have shorter := length_of_mark comma
      have next : m.skipBlanks.rest = ',' :: inner := by
        rw [Scanner.rest_skipBlanks, left]
        exact comma
      have start' : (m.skipBlanks.advance 1).rest = inner := by
        rw [Scanner.rest_advance, next, List.drop_one, List.tail_cons]
      have enough' : inner.length < steps := by omega
      obtain ⟨s', more, behind, count⟩ := ih closing start' enough'
      refine ⟨s', ?_, behind, count.trans joins⟩
      rw [operandList, run_bind_of_ok read, run_bind_of_ok (run_skipBlanks m),
        run_bind_of_ok (run_peek? _), if_pos (by rw [Scanner.peek?, next]; rfl),
        run_bind_of_ok (run_advance ..), run_bind_of_ok more, run_pure]

/-- The arguments that are read are operands in parentheses. -/
theorem isSound_argumentsWith (sound : IsSound operand phrase) (shortens : Shortens phrase)
    (blanks : IgnoresBlanks phrase)
    : IsSound (argumentsWith operand) (ArgumentsWith phrase) := by
  intro s s' operands h
  obtain ⟨_, inside, opened, h⟩ := run_bind_eq_ok.mp h
  obtain ⟨opening, joins⟩ := mark_of_run_expect opened
  rw [run_bind_of_ok (run_skipBlanks inside), run_bind_of_ok (run_get _)] at h
  split at h
  · rw [run_bind_of_ok (run_pure ..)] at h
    obtain ⟨_, behind, closed, h⟩ := run_bind_eq_ok.mp h
    cases h
    obtain ⟨closing, closed⟩ := mark_of_run_expect closed
    exact ⟨.empty opening (by simpa [Mark] using closing), closed.trans joins⟩
  · obtain ⟨read, last, filled, h⟩ := run_bind_eq_ok.mp h
    obtain ⟨_, behind, closed, h⟩ := run_bind_eq_ok.mp h
    cases h
    obtain ⟨closing, closed⟩ := mark_of_run_expect closed
    obtain ⟨rest, list, left, count⟩ :=
      listed_of_operandList sound shortens (Nat.lt_succ_self _) filled
    have blank : afterBlanks inside.skipBlanks.rest = afterBlanks inside.rest := by simp
    refine ⟨.parentheses opening (ignoresBlanks_listed blanks blank list) ?_,
      closed.trans (count.trans joins)⟩
    rw [Mark, ← afterBlanks_afterBlanks, left]
    exact closing

theorem isComplete_argumentsWith (complete : IsComplete EndsOperand operand phrase)
    (shortens : Shortens phrase) (blanks : IgnoresBlanks phrase)
    (starts : ∀ ⦃a : Operand⦄ ⦃text rest : List Char⦄, phrase a text rest
      → (afterBlanks text).head? ≠ some ')')
    : IsComplete (fun _ => True) (argumentsWith operand) (ArgumentsWith phrase) := by
  intro s operands rest h _
  cases h with
  | empty opening closing =>
      obtain ⟨inside, opened, left, joins⟩ := run_expect opening
      have closing' : Mark ')' inside.skipBlanks.rest rest := by simpa [Mark, left] using closing
      obtain ⟨s', closed, last, count⟩ := run_expect closing'
      refine ⟨s', ?_, last, count.trans joins⟩
      have next : inside.skipBlanks.peek? = some ')' := by
        rw [Scanner.peek?_skipBlanks, left, show afterBlanks _ = _ from closing]
        rfl
      rw [argumentsWith, run_bind_of_ok opened, run_bind_of_ok (run_skipBlanks inside),
        run_bind_of_ok (run_get _), if_pos next, run_bind_of_ok (run_pure ..),
        run_bind_of_ok closed, run_pure]
  | @parentheses _ _ inner last _ opening list closing =>
      obtain ⟨inside, opened, left, joins⟩ := run_expect opening
      have blank : afterBlanks inner = afterBlanks inside.skipBlanks.rest := by
        rw [Scanner.rest_skipBlanks, left, afterBlanks_afterBlanks]
      have list' := ignoresBlanks_listed blanks blank list
      have next : inside.skipBlanks.peek? ≠ some ')' := by
        rw [Scanner.peek?_skipBlanks, left]
        cases list with
        | one spelling => exact starts spelling
        | cons spelling => exact starts spelling
      obtain ⟨m, read, behind, count⟩ :=
        run_operandList complete shortens list' closing rfl (Nat.lt_succ_self _)
      have closing' : Mark ')' m.rest rest := by simpa [Mark, behind] using closing
      obtain ⟨s', closed, last, same⟩ := run_expect closing'
      refine ⟨s', ?_, last, same.trans (count.trans joins)⟩
      rw [argumentsWith, run_bind_of_ok opened, run_bind_of_ok (run_skipBlanks inside),
        run_bind_of_ok (run_get _), if_neg next, run_bind_of_ok read, run_bind_of_ok closed,
        run_pure]

end Arguments

-----------------------------------------------------------------------------------------
-- Operands at all levels of parentheses
-----------------------------------------------------------------------------------------

theorem operand_eq (nesting : Nat) : operand nesting = operandWith (arguments nesting) := by
  cases nesting with
  | zero => rfl
  | succ nesting => rfl

/-- The arguments that are read are spelled, by induction on the levels that are left. -/
theorem isSound_arguments (nesting : Nat)
    : IsSound (arguments nesting) (SpellsArguments nesting) := by
  induction nesting with
  | zero =>
      intro s s' operands h
      obtain ⟨_, _, _, h⟩ := run_bind_eq_ok.mp h
      simp at h
  | succ nesting ih =>
      rw [arguments, operand_eq]
      exact isSound_argumentsWith (isSound_operandWith ih (ignoresBlanks_arguments nesting))
        (shortens_operandWith (shortens_arguments nesting)) (ignoresBlanks_operandWith _)

theorem isComplete_arguments (nesting : Nat)
    : IsComplete (fun _ => True) (arguments nesting) (SpellsArguments nesting) := by
  induction nesting with
  | zero => exact fun _ _ _ spelled => absurd spelled id
  | succ nesting ih =>
      rw [arguments, operand_eq]
      exact isComplete_argumentsWith
        (isComplete_operandWith ih (ignoresBlanks_arguments nesting) (opens_arguments nesting))
        (shortens_operandWith (shortens_arguments nesting)) (ignoresBlanks_operandWith _)
        (fun _ _ _ => head?_operandWith_ne (by decide) (by decide) (by decide))

end RecordQuery.Scan
