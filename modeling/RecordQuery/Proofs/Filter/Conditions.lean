import RecordQuery.Proofs.Filter.Operands

/-! Conditions, read and written. A condition may go on over the white space behind it, so what it
leaves is known up to white space, and it leaves as many joins as its groups have not taken. Behind
a condition comes the end, a closing parenthesis or one of the keywords that join conditions.
-/

namespace RecordQuery.Scan

open Grammar

-----------------------------------------------------------------------------------------
-- What it means that a reader of filters reads a phrase
-----------------------------------------------------------------------------------------

/-- A reader of filters takes only what a phrase spells, up to white space behind it, and each join
of the filter is counted.
-/
def IsFilterSound (reader : Scan Filter) (phrase : Phrase Filter) : Prop :=
  ∀ ⦃s s' : Scanner⦄ ⦃filter : Filter⦄, reader.run s = .ok (filter, s')
    → ∃ rest, phrase filter s.rest rest ∧ afterBlanks rest = afterBlanks s'.rest
        ∧ s'.joins + filter.joins = s.joins

/-- What may follow a filter: the end, a closing parenthesis or one of some keywords. -/
def ContinuesWith (keywords : List String) (rest : List Char) : Prop :=
  afterBlanks rest = [] ∨ (afterBlanks rest).head? = some ')'
    ∨ ∃ keyword ∈ keywords, ∃ inner, Word keyword rest inner

/-- A reader of filters takes what a phrase spells in front of some keywords, up to white space
behind it, where enough joins are left for the filter.
-/
def IsFilterComplete (keywords : List String) (reader : Scan Filter) (phrase : Phrase Filter)
    : Prop :=
  ∀ ⦃s : Scanner⦄ ⦃filter : Filter⦄ ⦃rest : List Char⦄, phrase filter s.rest rest
    → ContinuesWith keywords rest → filter.joins ≤ s.joins
    → ∃ s', reader.run s = .ok (filter, s') ∧ afterBlanks s'.rest = afterBlanks rest
        ∧ s'.joins + filter.joins = s.joins

/-- What follows a filter up to white space is all that matters. -/
theorem ContinuesWith.of_afterBlanks {keywords : List String} {rest rest' : List Char}
    (same : afterBlanks rest = afterBlanks rest') (h : ContinuesWith keywords rest)
    : ContinuesWith keywords rest' := by
  rcases h with nothing | closing | ⟨keyword, member, inner, word⟩
  · exact .inl (same ▸ nothing)
  · exact .inr (.inl (same ▸ closing))
  · exact .inr (.inr ⟨keyword, member, inner, ignoresBlanks_word same word⟩)

/-- The whole word behind white space is the one that the grammar has there. -/
theorem word_of_scanner (s : Scanner)
    : Word (String.ofList s.skipBlanks.word) s.rest
        (s.skipBlanks.advance s.skipBlanks.word.length).rest := by
  refine ⟨?_, endsWord_drop_takeWhile s.skipBlanks.rest⟩
  rw [String.toList_ofList, word_append_rest, Scanner.rest_skipBlanks]

/-- Where the grammar has a whole word, it comes next behind white space. -/
theorem word_skipBlanks {s : Scanner} {word : String} {rest : List Char} (isWord : IsWord word)
    (h : Word word s.rest rest)
    : s.skipBlanks.word = word.toList
      ∧ (s.skipBlanks.advance s.skipBlanks.word.length).rest = rest :=
  word_eq ((Scanner.rest_skipBlanks s).trans h.1) isWord.2.1 h.2

/-- Behind a filter comes no word but a keyword. -/
theorem ContinuesWith.word {keywords : List String} (areWords : ∀ word ∈ keywords, IsWord word)
    {s : Scanner} (h : ContinuesWith keywords s.rest)
    : s.skipBlanks.word = [] ∨ ∃ keyword ∈ keywords, s.skipBlanks.word = keyword.toList := by
  rcases h with nothing | closing | ⟨keyword, member, inner, word⟩
  · left
    rw [Scanner.word, Scanner.rest_skipBlanks, nothing, List.takeWhile_nil]
  · left
    obtain ⟨rest, start⟩ := List.head?_eq_some_iff.mp closing
    rw [Scanner.word, Scanner.rest_skipBlanks, start]
    exact List.takeWhile_cons_of_neg (by decide)
  · exact .inr ⟨keyword, member, (word_skipBlanks (areWords keyword member) word).1⟩

theorem endsOperand_of_word {word : String} (isWord : IsWord word) {text rest : List Char}
    (h : Word word text rest)
    : EndsOperand text := by
  intro c first
  obtain ⟨d, head, isChar, _⟩ := exists_head_of_isWord isWord
  obtain ⟨tail, chars⟩ := List.head?_eq_some_iff.mp head
  rw [h.1, chars, List.cons_append, List.head?_cons, Option.mem_some_iff] at first
  exact .inr (.inr (first ▸ isChar))

/-- An operand ends where a filter does. -/
theorem ContinuesWith.endsOperand {keywords : List String}
    (areWords : ∀ word ∈ keywords, IsWord word) {rest : List Char}
    (h : ContinuesWith keywords rest)
    : EndsOperand rest := by
  rcases h with nothing | closing | ⟨keyword, member, inner, word⟩
  · intro c first
    simp [nothing] at first
  · intro c first
    rw [closing, Option.mem_some_iff] at first
    exact .inr (.inl first.symm)
  · exact endsOperand_of_word (areWords keyword member) word

-----------------------------------------------------------------------------------------
-- Comparisons
-----------------------------------------------------------------------------------------

section Comparisons

/-- Only an operator that is not supported is rejected. -/
theorem run_rejectArithmetic (s : Scanner)
    : rejectArithmetic.run s
      = if String.ofList s.skipBlanks.word ∈ unsupportedOperators then
          .error (.unsupported (.operator (String.ofList s.skipBlanks.word)))
        else .ok ((), s.skipBlanks) := by
  rw [rejectArithmetic, run_bind_of_ok (run_peekWord s)]
  dsimp only
  split
  · rfl
  · rfl

theorem run_comparison_eq_ok {s s' : Scanner} {operator : Comparison}
    : comparison.run s = .ok (operator, s')
      ↔ operator.name = String.ofList s.skipBlanks.word
        ∧ s.skipBlanks.advance s.skipBlanks.word.length = s' := by
  rw [← Comparison.ofName?_eq_some]
  by_cases unsupported : String.ofList s.skipBlanks.word ∈ unsupportedOperators
  · have noOperator : ∀ word ∈ unsupportedOperators, Comparison.ofName? word = none := by
      decide
    rw [noOperator _ unsupported, comparison, run_bind_eq_ok]
    simp only [run_rejectArithmetic, if_pos unsupported, reduceCtorEq, false_and, exists_false]
  · have passed : rejectArithmetic.run s = .ok ((), s.skipBlanks) := by
      rw [run_rejectArithmetic, if_neg unsupported]
    rw [comparison, run_bind_of_ok passed, run_bind_of_ok (run_get _)]
    cases Comparison.ofName? (String.ofList s.skipBlanks.word) with
    | none =>
        dsimp only
        split
        · simp
        · split
          · simp
          · simp
    | some found =>
        dsimp only
        rw [run_bind_of_ok (run_advance ..), run_pure]
        simp

theorem isSound_comparison : IsSound comparison (fun operator => Word operator.name) := by
  intro s s' operator h
  obtain ⟨name, rfl⟩ := run_comparison_eq_ok.mp h
  refine ⟨?_, rfl⟩
  dsimp only
  rw [name]
  exact word_of_scanner s

theorem isComplete_comparison
    : IsComplete (fun _ => True) comparison (fun operator => Word operator.name) := by
  intro s operator rest h _
  obtain ⟨word, left⟩ := word_skipBlanks operator.isWord_name h
  refine ⟨_, run_comparison_eq_ok.mpr ⟨?_, rfl⟩, left, rfl⟩
  rw [word, String.ofList_toList]

end Comparisons

/-- Behind a condition comes no operator, supported or not. -/
theorem not_operator_of_continues {s : Scanner} (h : ContinuesWith ["and", "or"] s.rest)
    : Comparison.ofName? (String.ofList s.skipBlanks.word) = none
      ∧ String.ofList s.skipBlanks.word ∉ unsupportedOperators := by
  rcases h.word (fun _ => isWord_of_joins) with word | ⟨keyword, member, word⟩
  · rw [word]
    decide
  · have noOperator : ∀ keyword ∈ ["and", "or"], Comparison.ofName? keyword = none
        ∧ keyword ∉ unsupportedOperators := by
      decide
    rw [word, String.ofList_toList]
    exact noOperator keyword member

-----------------------------------------------------------------------------------------
-- Tests, and comparisons behind them that agree
-----------------------------------------------------------------------------------------

section StringTests

variable {readArguments : Scan (List Operand)} {phrase : Phrase (List Operand)} {s s' : Scanner}

/-- A string test stands here: a test's name and an opening parenthesis. -/
def StartsTest (test : StringTest) (s : Scanner) : Prop :=
  test.name = String.ofList s.word
    ∧ (s.advance s.word.length).skipBlanks.peek? = some '('

/-- Where no test stands, none is read, and nothing is taken. -/
theorem run_stringTest?_none (h : ∀ test, ¬ StartsTest test s)
    : (stringTest? readArguments).run s = .ok (none, s) := by
  rw [stringTest?, run_bind_of_ok (run_get s)]
  dsimp only
  split
  · next test found opening =>
      exact absurd ⟨StringTest.ofName?_eq_some.mp found, by simpa using opening⟩ (h test)
  · rfl

/-- Where a test stands, its arguments are read, and they have to be two. -/
theorem run_stringTest?_eq_ok {test : StringTest} (h : StartsTest test s) {found : Option Filter}
    : (stringTest? readArguments).run s = .ok (found, s')
      ↔ ∃ first second,
        readArguments.run (s.advance s.word.length).skipBlanks = .ok ([first, second], s')
          ∧ found = some (.stringTest test first second) := by
  rw [stringTest?, run_bind_of_ok (run_get s)]
  dsimp only
  rw [StringTest.ofName?_eq_some.mpr h.1, h.2, beq_self_eq_true]
  dsimp only
  rw [run_bind_of_ok (run_set ..), run_bind_eq_ok]
  constructor
  · intro held
    obtain ⟨operands, m, read, last⟩ := held
    split at last
    · next first second =>
        cases last
        exact ⟨first, second, read, rfl⟩
    · simp at last
  · intro held
    obtain ⟨first, second, read, rfl⟩ := held
    exact ⟨[first, second], s', read, rfl⟩

/-- Where a test stands, no operand can be read: a test is no value. -/
theorem run_operandWith_ne_ok_of_startsTest {test : StringTest}
    (h : StartsTest test s.skipBlanks) {operand : Operand}
    : (operandWith readArguments).run s ≠ .ok (operand, s') := by
  obtain ⟨c, head, word, digit⟩ := exists_head_of_isWord test.isWord_name
  obtain ⟨name, opening⟩ := h
  have chars : s.skipBlanks.word = test.name.toList := by rw [name, String.toList_ofList]
  have first : s.skipBlanks.peek? = some c := by
    obtain ⟨tail, split⟩ := List.head?_eq_some_iff.mp head
    rw [Scanner.peek?, ← word_append_rest s.skipBlanks, chars, split]
    rfl
  have noClash : test.name ∉ Scan.literalTypes ∧ wordValue? test.name = none
      ∧ ∀ function ∈ Function.all, function.name ≠ test.name := by
    cases test <;> decide
  rw [run_operandWith_of_word first word digit, run_wordOperand_other, if_pos opening]
  · intro called
    obtain ⟨function, same, _⟩ := run_call_eq_ok.mp called
    exact noClash.2.2 function function.mem_all (same.trans name.symm)
  · intro held
    obtain ⟨type, _⟩ := held
    exact noClash.1 (name ▸ type)
  · intro held
    obtain ⟨constant, _⟩ := held
    rw [← name, noClash.2.1] at constant
    simp at constant

/-- A truth value is spelled by its constant only. -/
theorem constant_of_operandWith {truth : Bool} {text rest : List Char}
    (h : OperandWith phrase (.literal (.bool truth)) text rest)
    : ∃ word, (word, Json.bool truth) ∈ constants ∧ Constant word text rest := by
  cases h with
  | constant known spelling => exact ⟨_, known, spelling⟩
  | call function name list arity =>
      unfold Operand.call? at arity
      split at arity
      · cases arity
      · cases arity
      · cases arity
      · simp at arity

/-- What is read behind a test agrees with it, or is left alone where it is no comparison. -/
theorem testComparison_of_run (sound : IsSound (operandWith readArguments) (OperandWith phrase))
    {test filter : Filter}
    (h : (testComparison (operandWith readArguments) test).run s = .ok (filter, s'))
    : filter = test ∧ s'.joins = s.joins
        ∧ (s' = s.skipBlanks ∨ ∃ operator word truth, (operator, word) ∈ agreements
          ∧ Word operator.name s.rest truth ∧ Constant word truth s'.rest) := by
  rw [testComparison, run_bind_of_ok (run_peekWord s)] at h
  split at h
  · cases h
    exact ⟨rfl, rfl, .inl rfl⟩
  · next operator found =>
      have symbol := word_of_scanner s
      rw [← Comparison.ofName?_eq_some.mp found] at symbol
      rw [run_bind_of_ok (run_advance ..)] at h
      obtain ⟨value, m, read, h⟩ := run_bind_eq_ok.mp h
      obtain ⟨spelled, joins⟩ := sound read
      split at h
      · cases h
        obtain ⟨word, known, constant⟩ := constant_of_operandWith spelled
        have agrees : (Comparison.eq, word) ∈ agreements := by
          simp_all [constants, agreements]
        exact ⟨rfl, joins, .inr ⟨_, _, _, agrees, symbol, constant⟩⟩
      · cases h
        obtain ⟨word, known, constant⟩ := constant_of_operandWith spelled
        have agrees : (Comparison.ne, word) ∈ agreements := by
          simp_all [constants, agreements]
        exact ⟨rfl, joins, .inr ⟨_, _, _, agrees, symbol, constant⟩⟩
      · simp at h
      · simp at h
      · simp at h

/-- Behind a test that no comparison follows, only white space is taken. -/
theorem run_testComparison_of_continues {operand : Scan Operand}
    (h : ContinuesWith ["and", "or"] s.rest) (test : Filter)
    : (testComparison operand test).run s = .ok (test, s.skipBlanks) := by
  have noOperator := (not_operator_of_continues h).1
  rw [testComparison, run_bind_of_ok (run_peekWord s), noOperator]
  rfl

/-- A comparison that agrees with a test is read where it is written. -/
theorem run_testComparison_of_agreement
    (complete : IsComplete EndsOperand (operandWith readArguments) (OperandWith phrase))
    {operator : Comparison} {word : String} {truth rest : List Char}
    (agrees : (operator, word) ∈ agreements) (symbol : Word operator.name s.rest truth)
    (value : Constant word truth rest) (ends : EndsOperand rest) (test : Filter)
    : ∃ s', (testComparison (operandWith readArguments) test).run s = .ok (test, s')
        ∧ s'.rest = rest ∧ s'.joins = s.joins := by
  obtain ⟨name, left⟩ := word_skipBlanks operator.isWord_name symbol
  have found : Comparison.ofName? (String.ofList s.skipBlanks.word) = some operator := by
    rw [name, String.ofList_toList]
    exact Comparison.ofName?_eq_some.mpr rfl
  rw [testComparison, run_bind_of_ok (run_peekWord s), found]
  dsimp only
  rw [run_bind_of_ok (run_advance ..)]
  simp only [agreements, List.mem_cons, Prod.mk.injEq, List.not_mem_nil, or_false] at agrees
  rcases agrees with ⟨rfl, rfl⟩ | ⟨rfl, rfl⟩
  · have known : ("true", Json.bool true) ∈ constants := by decide
    obtain ⟨s', read, last, joins⟩ := complete (.constant known (left ▸ value)) ends
    rw [run_bind_of_ok read]
    exact ⟨s', rfl, last, joins⟩
  · have known : ("false", Json.bool false) ∈ constants := by decide
    obtain ⟨s', read, last, joins⟩ := complete (.constant known (left ▸ value)) ends
    rw [run_bind_of_ok read]
    exact ⟨s', rfl, last, joins⟩

end StringTests

-----------------------------------------------------------------------------------------
-- Conditions of all kinds
-----------------------------------------------------------------------------------------

section ConditionWith

variable {readArguments : Scan (List Operand)} {arguments : Phrase (List Operand)}
  {readGroup : Scan Filter} {group : Phrase Filter}

theorem ignoresBlanks_conditionWith
    : IgnoresBlanks (ConditionWith (OperandWith arguments) arguments group) := by
  intro filter text text' rest same h
  cases h with
  | group opening filling closing => exact .group (same.symm.trans opening) filling closing
  | test test name pair => exact .test test (ignoresBlanks_word same name) pair
  | agreement test name pair agrees symbol value =>
      exact .agreement test (ignoresBlanks_word same name) pair agrees symbol value
  | comparison operator first symbol second =>
      exact .comparison operator (ignoresBlanks_operandWith arguments same first) symbol second

/-- What is read as a condition is one, by cases on what it starts with. -/
theorem isSound_conditionWith (sound : IsSound readArguments arguments)
    (blanks : IgnoresBlanks arguments) (inside : IsFilterSound readGroup group)
    : IsFilterSound (conditionWith (operandWith readArguments) readArguments readGroup)
        (ConditionWith (OperandWith arguments) arguments group) := by
  intro s s' filter h
  have soundOperand := isSound_operandWith sound blanks
  have behindBlanks : afterBlanks s.skipBlanks.rest = afterBlanks s.rest := by simp
  rw [conditionWith, run_bind_of_ok (run_skipBlanks s), run_bind_of_ok (run_peek? _)] at h
  split at h
  · next first =>
      obtain ⟨inner, start⟩ := List.head?_eq_some_iff.mp first
      rw [run_bind_of_ok (run_advance ..)] at h
      obtain ⟨found, m, filled, h⟩ := run_bind_eq_ok.mp h
      obtain ⟨_, last, closed, h⟩ := run_bind_eq_ok.mp h
      cases h
      obtain ⟨rest, filling, left, joins⟩ := inside filled
      obtain ⟨closing, count⟩ := mark_of_run_expect closed
      refine ⟨s'.rest, .group ?_ filling (left.trans closing), rfl, ?_⟩
      · rw [Mark, ← Scanner.rest_skipBlanks, Scanner.rest_advance, start]
        rfl
      · rw [count]
        exact joins
  · obtain ⟨tested, m, read, h⟩ := run_bind_eq_ok.mp h
    -- a test is looked for first, and a comparison only where none stands
    by_cases starts : ∃ test, StartsTest test s.skipBlanks
    · obtain ⟨test, starts⟩ := starts
      obtain ⟨first, second, pair, rfl⟩ := (run_stringTest?_eq_ok starts).mp read
      obtain ⟨pair, joins⟩ := sound pair
      obtain ⟨rfl, count, last⟩ := testComparison_of_run soundOperand h
      have name := word_of_scanner s
      rw [← starts.1] at name
      rw [Scanner.rest_skipBlanks] at pair
      replace pair := blanks (afterBlanks_afterBlanks _) pair
      rcases last with rfl | ⟨operator, word, truth, agrees, symbol, value⟩
      · exact ⟨m.rest, .test test name pair, by simp, count.trans joins⟩
      · exact ⟨s'.rest, .agreement test name pair agrees symbol value, rfl, count.trans joins⟩
    · rw [run_stringTest?_none (not_exists.mp starts)] at read
      cases read
      obtain ⟨left, m, first, h⟩ := run_bind_eq_ok.mp h
      obtain ⟨operator, m', symbol, h⟩ := run_bind_eq_ok.mp h
      obtain ⟨right, last, second, h⟩ := run_bind_eq_ok.mp h
      obtain ⟨_, end', checked, h⟩ := run_bind_eq_ok.mp h
      cases h
      obtain ⟨first, joins⟩ := soundOperand first
      obtain ⟨symbol, count⟩ := isSound_comparison symbol
      obtain ⟨second, total⟩ := soundOperand second
      rw [run_rejectArithmetic] at checked
      split at checked
      · simp at checked
      · cases checked
        exact ⟨last.rest, .comparison operator
          (ignoresBlanks_operandWith arguments behindBlanks first) symbol second, by simp,
          total.trans (count.trans joins)⟩

/-- No condition but a group starts with an opening parenthesis. -/
theorem peek?_ne_of_isWord {word : String} (isWord : IsWord word) {s : Scanner}
    {rest : List Char} (h : Word word s.rest rest)
    : s.skipBlanks.peek? ≠ some '(' := by
  obtain ⟨c, head, isChar, _⟩ := exists_head_of_isWord isWord
  obtain ⟨tail, chars⟩ := List.head?_eq_some_iff.mp head
  rw [Scanner.peek?_skipBlanks, h.1, chars]
  intro same
  cases same
  simp [show Text.isWordChar '(' = false by decide] at isChar

theorem run_stringTest? (complete : IsComplete (fun _ => True) readArguments arguments)
    (blanks : IgnoresBlanks arguments) (opens : Opens arguments) {s : Scanner} (test : StringTest)
    {first second : Operand} {inner rest : List Char} (name : Word test.name s.rest inner)
    (pair : arguments [first, second] inner rest)
    : ∃ s', (stringTest? readArguments).run s.skipBlanks
          = .ok (some (.stringTest test first second), s')
        ∧ s'.rest = rest ∧ s'.joins = s.joins := by
  obtain ⟨word, left⟩ := word_skipBlanks test.isWord_name name
  have behind : (s.skipBlanks.advance s.skipBlanks.word.length).skipBlanks.rest
      = afterBlanks inner := by
    rw [Scanner.rest_skipBlanks, left]
  have starts : StartsTest test s.skipBlanks := by
    refine ⟨by rw [word, String.ofList_toList], ?_⟩
    rw [Scanner.peek?, behind]
    exact opens _ _ _ pair
  obtain ⟨s', read, last, joins⟩ :=
    complete (s := (s.skipBlanks.advance s.skipBlanks.word.length).skipBlanks)
      (blanks (by rw [behind, afterBlanks_afterBlanks]) pair) trivial
  exact ⟨s', (run_stringTest?_eq_ok starts).mpr ⟨first, second, read, rfl⟩, last, joins⟩

/-- A condition is read where one is written in front of a keyword, a closing parenthesis or the
end, by cases on its kind.
-/
theorem isComplete_conditionWith (complete : IsComplete (fun _ => True) readArguments arguments)
    (blanks : IgnoresBlanks arguments) (opens : Opens arguments)
    (inside : IsFilterComplete [] readGroup group)
    : IsFilterComplete ["and", "or"]
        (conditionWith (operandWith readArguments) readArguments readGroup)
        (ConditionWith (OperandWith arguments) arguments group) := by
  intro s filter rest h follows enough
  have completeOperand := isComplete_operandWith complete blanks opens
  have ends : EndsOperand rest := follows.endsOperand (fun _ => isWord_of_joins)
  rw [conditionWith, run_bind_of_ok (run_skipBlanks s), run_bind_of_ok (run_peek? _)]
  cases h with
  | @group _ _ inner last _ opening filling closing =>
      have start : s.skipBlanks.rest = '(' :: inner := (Scanner.rest_skipBlanks s).trans opening
      have closes : ContinuesWith [] last := by
        refine .inr (.inl ?_)
        rw [show afterBlanks last = ')' :: rest from closing, List.head?_cons]
      have left : (s.skipBlanks.advance 1).rest = inner := by
        rw [Scanner.rest_advance, start, List.drop_one, List.tail_cons]
      obtain ⟨m, filled, behind, joins⟩ :=
        inside (s := s.skipBlanks.advance 1) (left ▸ filling) closes enough
      obtain ⟨s', closed, last, count⟩ := run_expect (s := m) (behind.trans closing)
      refine ⟨s', ?_, by rw [last], by rw [count]; exact joins⟩
      rw [if_pos (by rw [Scanner.peek?, start]; rfl), run_bind_of_ok (run_advance ..),
        run_bind_of_ok filled, run_bind_of_ok closed, run_pure]
  | test test name pair =>
      obtain ⟨m, read, left, joins⟩ := run_stringTest? complete blanks opens test name pair
      refine ⟨m.skipBlanks, ?_, by simp [left], joins⟩
      rw [if_neg (peek?_ne_of_isWord test.isWord_name name), run_bind_of_ok read]
      exact run_testComparison_of_continues (left.symm ▸ follows) _
  | agreement test name pair agrees symbol value =>
      obtain ⟨m, read, left, joins⟩ := run_stringTest? complete blanks opens test name pair
      obtain ⟨s', agreed, last, count⟩ := run_testComparison_of_agreement completeOperand agrees
        (left.symm ▸ symbol) value ends _
      refine ⟨s', ?_, by rw [last], by rw [count]; exact joins⟩
      rw [if_neg (peek?_ne_of_isWord test.isWord_name name), run_bind_of_ok read]
      exact agreed
  | comparison operator first symbol second =>
      have noGroup : s.skipBlanks.peek? ≠ some '(' := by
        rw [Scanner.peek?_skipBlanks]
        exact head?_operandWith_ne (by decide) (by decide) (by decide) first
      have first' := ignoresBlanks_operandWith arguments
        (show afterBlanks s.rest = afterBlanks s.skipBlanks.rest by simp) first
      obtain ⟨m, read, left, joins⟩ := completeOperand first'
        (endsOperand_of_word operator.isWord_name symbol)
      -- an operand was read here, and a test is none
      have noTest : ∀ test, ¬ StartsTest test s.skipBlanks := by
        intro test starts
        rw [← s.skipBlanks_skipBlanks] at starts
        exact run_operandWith_ne_ok_of_startsTest starts read
      obtain ⟨m', compared, left', count⟩ :=
        isComplete_comparison (left.symm ▸ symbol) trivial
      obtain ⟨last, read', behind, total⟩ := completeOperand (left'.symm ▸ second) ends
      have noOperator := (not_operator_of_continues (s := last) (behind.symm ▸ follows)).2
      refine ⟨last.skipBlanks, ?_, by simp [behind], total.trans (count.trans joins)⟩
      rw [if_neg noGroup, run_bind_of_ok (run_stringTest?_none noTest)]
      dsimp only
      rw [run_bind_of_ok read, run_bind_of_ok compared, run_bind_of_ok read']
      have passed : rejectArithmetic.run last = .ok ((), last.skipBlanks) := by
        rw [run_rejectArithmetic, if_neg noOperator]
      rw [run_bind_of_ok passed, run_pure]

end ConditionWith

end RecordQuery.Scan
