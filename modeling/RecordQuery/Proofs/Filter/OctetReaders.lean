import RecordQuery.Proofs.Filter.OctetConditions

/-! The readers of a filter, one by one, and what holds of each of them. Every one reads what a
reader of characters reads that goes on in the text and takes as many joins as its result has. What
such readers have in common need not be proved of each.
-/

namespace RecordQuery

namespace Reading

variable {α : Type} {text : List Char} {depth : Nat} {s s' : Scanner}

/-- The joins of what a condition starts with. -/
def Term.joins : Term → Nat
  | .operand _ => 0
  | .test filter => filter.joins

/-- Something holds of each reader of a filter. It is told where the reader may start, the joins of
what the reader gives, and the reader for each number of levels that the recursion may have.
-/
structure EachReader (text : List Char)
    (holds : {α : Type} → (Cursor → Prop) → (α → Nat) → (Nat → Reading α) → Prop)
    : Prop where
  isAtEnd : holds (fun _ => True) (fun _ => 0) (fun _ => isAtEnd text)
  peek : holds (fun _ => True) (fun _ => 0) (fun _ => peek text)
  bump : holds (fun _ => True) (fun _ => 0) (fun _ => bump text)
  skipBlanks : holds (fun _ => True) (fun _ => 0) (fun _ => skipBlanks text)
  skipDigits : holds (fun _ => True) (fun _ => 0) (fun _ => skipDigits text)
  expect : ∀ mark, holds (fun _ => True) (fun _ => 0) (fun _ => expect text mark)
  wordHere : holds (fun _ => True) (fun _ => 0) (fun _ => wordHere text)
  peekWord : holds (fun _ => True) (fun _ => 0) (fun _ => peekWord text)
  takeKeyword : ∀ keyword, holds (fun _ => True) (fun _ => 0) (fun _ => takeKeyword text keyword)
  quoted : holds (fun _ => True) (fun _ => 0) (fun _ => quoted text)
  number : holds (fun _ => True) (fun _ => 0) (fun _ => number text)
  rejectArithmetic : holds (fun _ => True) (fun _ => 0) (fun _ => rejectArithmetic text)
  comparison : holds (fun _ => True) (fun _ => 0) (fun _ => comparison text)
  operand : holds (fun _ => True) (fun _ => 0) (operand text)
  /-- An operand that starts with a word is read where an identifier character stands. -/
  wordOperand : holds
    (fun c => ∃ letter, Text.StandsAt text c.position [letter] ∧ Text.isWordChar letter = true)
    (fun _ => 0) (fun levels => wordOperand text (Reading.arguments text levels))
  call : ∀ name, holds (fun _ => True) (fun _ => 0)
    (fun levels => call name (Reading.arguments text levels))
  arguments : holds (fun _ => True) (fun _ => 0) (arguments text)
  term : holds (fun _ => True) Term.joins
    (fun levels => term text (Reading.operand text levels) (Reading.arguments text levels))
  /-- A comparison behind a string test gives the test. -/
  testComparison : ∀ test first second, holds (fun _ => True) Filter.joins
    (fun levels => testComparison text (Reading.operand text levels)
      (.stringTest test first second))
  condition : holds (fun _ => True) Filter.joins (condition text)
  conjunction : holds (fun _ => True) Filter.joins
    (fun levels => conjunction text (Reading.condition text levels))
  disjunction : holds (fun _ => True) Filter.joins
    (fun levels => disjunction text (Reading.condition text levels))

/-- What holds of each reader may be exchanged for what follows from it. -/
theorem EachReader.mono
    {holds holds' : {α : Type} → (Cursor → Prop) → (α → Nat) → (Nat → Reading α) → Prop}
    (le : ∀ {α : Type} {starts : Cursor → Prop} {joins : α → Nat} {p : Nat → Reading α},
      holds starts joins p → holds' starts joins p)
    (h : EachReader text holds)
    : EachReader text holds' := {
  isAtEnd := le h.isAtEnd
  peek := le h.peek
  bump := le h.bump
  skipBlanks := le h.skipBlanks
  skipDigits := le h.skipDigits
  expect := fun mark => le (h.expect mark)
  wordHere := le h.wordHere
  peekWord := le h.peekWord
  takeKeyword := fun keyword => le (h.takeKeyword keyword)
  quoted := le h.quoted
  number := le h.number
  rejectArithmetic := le h.rejectArithmetic
  comparison := le h.comparison
  operand := le h.operand
  wordOperand := le h.wordOperand
  call := fun name => le (h.call name)
  arguments := le h.arguments
  term := le h.term
  testComparison := fun test first second => le (h.testComparison test first second)
  condition := le h.condition
  conjunction := le h.conjunction
  disjunction := le h.disjunction
}

-----------------------------------------------------------------------------------------
-- Readers of characters that take as many joins as they give
-----------------------------------------------------------------------------------------

/-- A reader of characters takes as many joins as its result has. -/
def Takes (joins : α → Nat) (q : Scan α) : Prop :=
  ∀ ⦃s s' : Scanner⦄ ⦃a : α⦄, q.run s = .ok (a, s') → s'.joins + joins a = s.joins

theorem takes_of_isSound {q : Scan α} {phrase : Grammar.Phrase α} (sound : Scan.IsSound q phrase)
    : Takes (fun _ => 0) q :=
  fun _ _ _ h => (sound h).2

theorem takes_of_isFilterSound {q : Scan Filter} {phrase : Grammar.Phrase Filter}
    (sound : Scan.IsFilterSound q phrase)
    : Takes Filter.joins q := by
  intro s s' filter h
  obtain ⟨_, _, _, joins⟩ := sound h
  exact joins

/-- An octet reader is followed by readers of characters, one for each number of parentheses that
may still be opened: these go on in the text and take the joins of what they give.
-/
def IsFollowed (text : List Char) (starts : Cursor → Prop) (joins : α → Nat)
    (p : Nat → Reading α)
    : Prop :=
  ∃ q : Nat → Scan α,
    (∀ (nesting levels : Nat) (s : Scanner), nesting ≤ Scan.maxNesting → nesting < levels
      → s.IsIn text → starts (s.cursor (Scan.maxNesting - nesting))
      → Agree text (Scan.maxNesting - nesting)
          ((p levels).run (s.cursor (Scan.maxNesting - nesting))) ((q nesting).run s))
    ∧ (∀ nesting, Scan.GoesOn (q nesting)) ∧ ∀ nesting, Takes joins (q nesting)

/-- A reader is followed that succeeds behind some of the characters at every place. -/
theorem isFollowed_of_run {p : Reading α} {a : Scanner → α} {count : Scanner → Nat}
    (run : ∀ {s : Scanner} {depth : Nat}, s.IsIn text
      → p.run (s.cursor depth) = .ok (a s, (s.advance (count s)).cursor depth))
    : IsFollowed text (fun _ => True) (fun _ => 0) (fun _ => p) := by
  refine ⟨fun _ s => .ok (a s, s.advance (count s)), ?_, ?_, ?_⟩
  · intro nesting levels s _ _ h _
    rw [run h]
    exact .ok (h.advance _) _
  · exact fun _ s => s.reaches_advance _
  · intro _ s s' _ same
    cases same
    rfl

/-- A reader that only looks is followed. -/
theorem isFollowed_of_look {p : Reading α} {a : Scanner → α}
    (run : ∀ {s : Scanner} {depth : Nat}, s.IsIn text
      → p.run (s.cursor depth) = .ok (a s, s.cursor depth))
    : IsFollowed text (fun _ => True) (fun _ => 0) (fun _ => p) := by
  have stays {s : Scanner} {depth : Nat} (h : s.IsIn text)
      : p.run (s.cursor depth) = .ok (a s, (s.advance 0).cursor depth) := by
    rw [run h, Scanner.advance_zero]
  exact isFollowed_of_run stays

/-- A reader of a single step is followed at every depth. -/
theorem isFollowed_of_step {p : Reading α} {q : Scan α}
    (follows : ∀ depth, Follows text depth p q) (goesOn : Scan.GoesOn q)
    (takes : Takes (fun _ => 0) q)
    : IsFollowed text (fun _ => True) (fun _ => 0) (fun _ => p) :=
  ⟨fun _ => q, fun _ _ _ _ _ h _ => follows _ _ h, fun _ => goesOn, fun _ => takes⟩

theorem isFollowed_of_follows {joins : α → Nat} {p : Nat → Reading α} {q : Nat → Scan α}
    (follows : ∀ {nesting levels : Nat}, nesting ≤ Scan.maxNesting → nesting < levels
      → Follows text (Scan.maxNesting - nesting) (p levels) (q nesting))
    (goesOn : ∀ nesting, Scan.GoesOn (q nesting)) (takes : ∀ nesting, Takes joins (q nesting))
    : IsFollowed text (fun _ => True) joins p :=
  ⟨q, fun _ _ _ few room h _ => follows few room _ h, goesOn, takes⟩

-----------------------------------------------------------------------------------------
-- The readers of characters, where they go and what they take
-----------------------------------------------------------------------------------------

theorem takes_takeKeyword (keyword : List Char)
    : Takes (fun _ => 0) (Scan.takeKeyword keyword) := by
  intro s s' taken h
  rw [Scan.run_takeKeyword] at h
  split at h
  · cases h
    rfl
  · cases h
    rfl

theorem takes_rejectArithmetic : Takes (fun _ => 0) Scan.rejectArithmetic := by
  intro s s' _ h
  rw [Scan.run_rejectArithmetic] at h
  split at h
  · cases h
  · cases h
    rfl

theorem goesOn_quotedText : Scan.GoesOn quotedText := by
  refine Scan.goesOn_get_bind fun s => ?_
  refine Scan.allows_bind (Scan.goesOn_expect '\'' s) fun _ m _ reached => ?_
  rw [Scan.run_bind_of_ok (Scan.run_get m)]
  split
  · rw [Scan.run_bind_of_ok (Scan.run_advance ..)]
    exact reached.trans (m.reaches_advance _)
  · exact Scanner.Shows.here List.nil_prefix

theorem takes_quotedText : Takes (fun _ => 0) quotedText := by
  intro s s' found h
  obtain ⟨start, m, got, h⟩ := Scan.run_bind_eq_ok.mp h
  cases got
  obtain ⟨_, m, opened, h⟩ := Scan.run_bind_eq_ok.mp h
  rw [Scan.run_bind_of_ok (Scan.run_get m)] at h
  split at h
  · cases h
    exact (Scan.mark_of_run_expect opened).2
  · cases h

theorem takes_number : Takes (fun _ => 0) Scan.number :=
  fun _ _ _ h => (Scan.number_of_run h).1

theorem takes_arguments (nesting : Nat) : Takes (fun _ => 0) (Scan.arguments nesting) :=
  takes_of_isSound (Scan.isSound_arguments nesting)

theorem takes_operand (nesting : Nat) : Takes (fun _ => 0) (Scan.operand nesting) := by
  rw [Scan.operand_eq]
  exact takes_of_isSound (Scan.isSound_operandWith (Scan.isSound_arguments nesting)
    (Scan.ignoresBlanks_arguments nesting))

section Arguments

variable {operand : Scan Operand} {arguments : Scan (List Operand)}

theorem takes_call (takes : Takes (fun _ => 0) arguments) (name : String)
    : Takes (fun _ => 0) (Scan.call name arguments) := by
  intro s s' found h
  obtain ⟨_, _, operands, read, _⟩ := Scan.run_call_eq_ok.mp h
  exact takes read

theorem takes_wordOperand (takes : Takes (fun _ => 0) arguments)
    : Takes (fun _ => 0) (Scan.wordOperand arguments) := by
  intro s s' found h
  by_cases typed : Scan.startsTyped s
  · rw [Scan.run_wordOperand_typed typed] at h
    obtain ⟨read, m, quoted, h⟩ := Scan.run_bind_eq_ok.mp h
    cases h
    exact (Scan.quoted_of_run typed.2 quoted).2
  · by_cases constant : Scan.startsConstant s
    · obtain ⟨value, known⟩ := Option.isSome_iff_exists.mp constant.1
      rw [Scan.run_wordOperand_constant typed known constant.2] at h
      cases h
      rfl
    · rw [Scan.run_wordOperand_other typed constant] at h
      split at h
      · have joins := takes_call takes _ h
        exact joins
      · split at h
        · cases h
        · split at h
          · cases h
          · exact (Scan.path_of_run h).1

theorem goesOn_charTerm (readsOperand : Scan.GoesOn operand)
    (readsArguments : Scan.GoesOn arguments)
    : Scan.GoesOn (charTerm operand arguments) := by
  refine Scan.goesOn_skipBlanks.bind fun _ =>
    (Scan.goesOn_stringTest? readsArguments).bind fun found => ?_
  cases found with
  | some test => exact Scan.goesOn_pure _
  | none => exact readsOperand.bind fun _ => Scan.goesOn_pure _

theorem takes_charTerm (takesOperand : Takes (fun _ => 0) operand)
    (takesArguments : Takes (fun _ => 0) arguments)
    : Takes Term.joins (charTerm operand arguments) := by
  intro s s' found h
  rw [charTerm, Scan.run_bind_of_ok (Scan.run_skipBlanks s)] at h
  obtain ⟨tested, m, read, h⟩ := Scan.run_bind_eq_ok.mp h
  by_cases starts : ∃ test, Scan.StartsTest test s.skipBlanks
  · obtain ⟨test, starts⟩ := starts
    obtain ⟨first, second, pair, rfl⟩ := (Scan.run_stringTest?_eq_ok starts).mp read
    cases h
    have joins := takesArguments pair
    exact joins
  · rw [Scan.run_stringTest?_none (not_exists.mp starts)] at read
    cases read
    obtain ⟨left, m, first, h⟩ := Scan.run_bind_eq_ok.mp h
    cases h
    have joins := takesOperand first
    exact joins

end Arguments

theorem takes_testComparison (nesting : Nat) (test : StringTest) (first second : Operand)
    : Takes Filter.joins
        (Scan.testComparison (Scan.operand nesting) (.stringTest test first second)) := by
  intro s s' found h
  rw [Scan.operand_eq] at h
  obtain ⟨rfl, joins, _⟩ := Scan.testComparison_of_run (Scan.isSound_operandWith
    (Scan.isSound_arguments nesting) (Scan.ignoresBlanks_arguments nesting)) h
  exact joins

-----------------------------------------------------------------------------------------
-- Each reader is followed
-----------------------------------------------------------------------------------------

/-- An operand that starts with a word is read where one starts: no white space stands there. -/
theorem isFollowed_wordOperand
    : IsFollowed text
        (fun c => ∃ letter, Text.StandsAt text c.position [letter]
          ∧ Text.isWordChar letter = true)
        (fun _ => 0) (fun levels => wordOperand text (arguments text levels)) := by
  refine ⟨fun nesting => Scan.wordOperand (Scan.arguments nesting), ?_,
    fun nesting => Scan.goesOn_wordOperand (Scan.goesOn_arguments nesting),
    fun nesting => takes_wordOperand (takes_arguments nesting)⟩
  intro nesting levels s few room h starts
  obtain ⟨letter, stands, word⟩ := starts
  have first : s.peek? = some letter := by
    obtain ⟨before, split, count⟩ := h.split
    obtain ⟨before', after, split', count'⟩ := stands
    rw [Scanner.position_cursor, count] at count'
    have left := (Text.parts_unique (split'.symm.trans split) count').2
    rw [Scanner.peek?, ← left]
    rfl
  have solid := Scanner.skipBlanks_of_peek? first (Text.isBlank_of_isWordChar word)
  exact agree_wordOperand (follows_arguments few room) h solid

theorem eachReader_isFollowed (text : List Char) : EachReader text (IsFollowed text) := {
  isAtEnd := isFollowed_of_look run_isAtEnd
  peek := isFollowed_of_look run_peek
  bump := isFollowed_of_run run_bump
  skipBlanks := isFollowed_of_run run_skipBlanks
  skipDigits := isFollowed_of_run run_skipDigits
  expect := fun mark => isFollowed_of_step (fun _ => follows_expect mark)
    (Scan.goesOn_expect mark) (fun _ _ _ h => (Scan.mark_of_run_expect h).2)
  wordHere := isFollowed_of_look run_wordHere
  peekWord := isFollowed_of_run run_peekWord
  takeKeyword := fun keyword => isFollowed_of_step (fun _ => follows_takeKeyword keyword)
    (Scan.goesOn_takeKeyword keyword) (takes_takeKeyword keyword)
  quoted := isFollowed_of_step (fun _ => follows_quoted) goesOn_quotedText takes_quotedText
  number := isFollowed_of_step (fun _ _ h => agree_number h) Scan.goesOn_number takes_number
  rejectArithmetic := isFollowed_of_step (fun _ => follows_rejectArithmetic)
    Scan.goesOn_rejectArithmetic takes_rejectArithmetic
  comparison := isFollowed_of_step (fun _ => follows_comparison) Scan.goesOn_comparison
    (takes_of_isSound Scan.isSound_comparison)
  operand := isFollowed_of_follows follows_operand Scan.goesOn_operand takes_operand
  wordOperand := isFollowed_wordOperand
  call := fun name => isFollowed_of_follows
    (fun few room => follows_call (follows_arguments few room) name)
    (fun nesting => Scan.goesOn_call (Scan.goesOn_arguments nesting) name)
    (fun nesting => takes_call (takes_arguments nesting) name)
  arguments := isFollowed_of_follows follows_arguments Scan.goesOn_arguments takes_arguments
  term := isFollowed_of_follows
    (fun few room => follows_term (follows_operand few room) (follows_arguments few room))
    (fun nesting => goesOn_charTerm (Scan.goesOn_operand nesting) (Scan.goesOn_arguments nesting))
    (fun nesting => takes_charTerm (takes_operand nesting) (takes_arguments nesting))
  testComparison := fun test first second => isFollowed_of_follows
    (fun few room => follows_testComparison (follows_operand few room) _)
    (fun nesting => Scan.goesOn_testComparison (Scan.goesOn_operand nesting) test first second)
    (fun nesting => takes_testComparison nesting test first second)
  condition := isFollowed_of_follows follows_condition Scan.goesOn_condition
    (fun nesting => takes_of_isFilterSound (Scan.isFilterSound_condition nesting))
  conjunction := isFollowed_of_follows
    (fun {nesting _} few room => follows_conjunction (follows_condition few room)
      (Scan.goesOn_condition nesting) (Scan.isFilterSound_condition nesting))
    (fun nesting => Scan.goesOn_chain (Scan.goesOn_condition nesting))
    (fun nesting => takes_of_isFilterSound
      (isFilterSound_conjunction (Scan.isFilterSound_condition nesting)))
  disjunction := isFollowed_of_follows
    (fun {nesting _} few room => follows_disjunction (follows_condition few room)
      (Scan.goesOn_condition nesting) (Scan.isFilterSound_condition nesting))
    (fun nesting => Scan.goesOn_disjunction (Scan.goesOn_condition nesting))
    (fun nesting => takes_of_isFilterSound
      (Scan.isFilterSound_disjunction (Scan.isFilterSound_condition nesting)))
}

end Reading

end RecordQuery
