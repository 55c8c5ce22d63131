import RecordQuery.Proofs.Filter.Parsing
import RecordQuery.Proofs.FormEncoding

/-! Where the filter reader is in its text, and what its errors tell. Every step goes on in the
text. Where it fails, the position that its error names lies ahead, what the error quotes stands
there, and the call that the error is about is one of a function or a test that there is.
-/

namespace RecordQuery

-----------------------------------------------------------------------------------------
-- Places in a text
-----------------------------------------------------------------------------------------

namespace Scanner

/-- Another place ahead in the same text, behind the characters in between. -/
def Reaches (s s' : Scanner) : Prop :=
  ∃ taken, s.rest = taken ++ s'.rest ∧ s'.position = s.position + Text.octetCount taken

/-- A text stands at a position, here or ahead. -/
def Shows (s : Scanner) (position : Nat) (text : List Char) : Prop :=
  ∃ place, s.Reaches place ∧ place.position = position ∧ text <+: place.rest

theorem Reaches.refl (s : Scanner) : s.Reaches s :=
  ⟨[], rfl, rfl⟩

theorem Reaches.trans {s m s' : Scanner} (first : s.Reaches m) (later : m.Reaches s')
    : s.Reaches s' := by
  obtain ⟨before, text, position⟩ := first
  obtain ⟨after, text', position'⟩ := later
  refine ⟨before ++ after, by rw [text, text', List.append_assoc], ?_⟩
  rw [position', position, Nat.add_assoc, Text.octetCount, Text.octetCount, Text.octetCount,
    Text.octets_append, List.length_append]

theorem reaches_advance (s : Scanner) (count : Nat) : s.Reaches (s.advance count) :=
  ⟨s.rest.take count, (List.take_append_drop count s.rest).symm, rfl⟩

theorem reaches_skipBlanks (s : Scanner) : s.Reaches s.skipBlanks :=
  s.reaches_advance _

theorem Shows.here {s : Scanner} {text : List Char} (start : text <+: s.rest)
    : s.Shows s.position text :=
  ⟨s, .refl s, rfl, start⟩

theorem Shows.ahead {s m : Scanner} {position : Nat} {text : List Char} (reached : s.Reaches m)
    (shown : m.Shows position text)
    : s.Shows position text := by
  obtain ⟨place, later, rest⟩ := shown
  exact ⟨place, reached.trans later, rest⟩

end Scanner

-----------------------------------------------------------------------------------------
-- What errors tell
-----------------------------------------------------------------------------------------

/-- What an error tells of the text here and ahead: it stands where the error says, and a call is
one of a function or a test.
-/
def ParseError.IsTrueAt (s : Scanner) : ParseError → Prop
  | .unexpected text position => s.Shows position text.toList
  | .expectedChar _ position found => s.Shows position [found]
  | .expectedOperator position found | .expectedOperand position found =>
    s.Shows position found.toList
  | .expectedOperatorAt position | .unterminatedString position | .expectedDigits position
  | .invalidNumberAt position => s.Shows position []
  | .argumentCount name _ _ =>
    (∃ function : Function, function.name = name) ∨ ∃ test : StringTest, test.name = name
  | .testCompared filter _ _ => ∃ test first second, filter = .stringTest test first second
  | .malformedQueryString _ => False
  | _ => True

/-- What an error of reading tells of the text here and ahead. -/
def QueryError.IsTrueAt (s : Scanner) : QueryError → Prop
  | .parse error => error.IsTrueAt s
  | _ => True

theorem ParseError.IsTrueAt.ahead {s m : Scanner} (reached : s.Reaches m) {error : ParseError}
    (isTrue : error.IsTrueAt m)
    : error.IsTrueAt s := by
  unfold IsTrueAt at *
  cases error with
  | unexpected | expectedChar | expectedOperator | expectedOperand | expectedOperatorAt
  | unterminatedString | expectedDigits | invalidNumberAt => exact isTrue.ahead reached
  | _ => exact isTrue

/-- What reading may give from a place: a place ahead, or an error that is true of the text. -/
def Scanner.Allows (s : Scanner) : Except QueryError (α × Scanner) → Prop
  | .ok (_, s') => s.Reaches s'
  | .error error => error.IsTrueAt s

theorem Scanner.Allows.ahead {s m : Scanner} {outcome : Except QueryError (α × Scanner)}
    (reached : s.Reaches m) (allowed : m.Allows outcome)
    : s.Allows outcome := by
  cases outcome with
  | ok result => exact reached.trans allowed
  | error error =>
      cases error with
      | parse error => exact ParseError.IsTrueAt.ahead reached allowed
      | _ => trivial

namespace Scan

variable {α β : Type}

/-- A step of reading goes on in the text or fails with a true error, wherever it starts. -/
def GoesOn (p : Scan α) : Prop :=
  ∀ s : Scanner, s.Allows (p.run s)

theorem GoesOn.ahead {p : Scan α} (goesOn : GoesOn p) {s m : Scanner} (reached : s.Reaches m)
    : s.Allows (p.run m) :=
  (goesOn m).ahead reached

/-- Two steps are allowed if the second one is wherever the first one ends. -/
theorem allows_bind {p : Scan α} {f : α → Scan β} {s m : Scanner} (first : s.Allows (p.run m))
    (next : ∀ a m', p.run m = .ok (a, m') → s.Reaches m' → s.Allows ((f a).run m'))
    : s.Allows ((p >>= f).run m) := by
  cases outcome : p.run m with
  | ok result =>
      obtain ⟨a, m'⟩ := result
      rw [run_bind_of_ok outcome]
      rw [outcome] at first
      exact next a m' outcome first
  | error error =>
      rw [StateT.run_bind, outcome]
      rw [outcome] at first
      exact first

theorem GoesOn.bind {p : Scan α} {f : α → Scan β} (first : GoesOn p) (next : ∀ a, GoesOn (f a))
    : GoesOn (p >>= f) :=
  fun s => allows_bind (first s) (fun a _ _ reached => (next a).ahead reached)

/-- Steps that depend on the place at hand. -/
theorem goesOn_get_bind {f : Scanner → Scan α} (next : ∀ s : Scanner, s.Allows ((f s).run s))
    : GoesOn (get >>= f) := by
  intro s
  rw [run_bind_of_ok (run_get s)]
  exact next s

theorem goesOn_pure (a : α) : GoesOn (pure a : Scan α) :=
  fun s => .refl s

theorem goesOn_advance (count : Nat) : GoesOn (advance count) :=
  fun s => s.reaches_advance count

theorem goesOn_skipBlanks : GoesOn skipBlanks :=
  fun s => s.reaches_skipBlanks

theorem goesOn_peek? : GoesOn peek? :=
  fun s => .refl s

theorem goesOn_peekWord : GoesOn peekWord :=
  fun s => s.reaches_skipBlanks

theorem goesOn_reject (error : Unsupported) : GoesOn (reject error : Scan α) :=
  fun _ => trivial

/-- An error may be given that is true everywhere. -/
theorem goesOn_fail {error : ParseError} (isTrue : ∀ s, error.IsTrueAt s)
    : GoesOn (fail error : Scan α) :=
  isTrue

-----------------------------------------------------------------------------------------
-- Marks and words
-----------------------------------------------------------------------------------------

theorem goesOn_expect (mark : Char) : GoesOn (expect mark) := by
  refine goesOn_skipBlanks.bind fun _ => goesOn_get_bind fun s => ?_
  cases here : s.peek? with
  | none => exact trivial
  | some c =>
      dsimp only
      split
      · exact goesOn_advance 1 s
      · obtain ⟨rest, text⟩ := List.head?_eq_some_iff.mp here
        exact Scanner.Shows.here ⟨rest, text.symm⟩

theorem goesOn_takeKeyword (keyword : List Char) : GoesOn (takeKeyword keyword) := by
  refine goesOn_peekWord.bind fun word => ?_
  split
  · exact (goesOn_advance _).bind fun _ => goesOn_pure _
  · exact goesOn_pure _

theorem goesOn_takeJoin : GoesOn takeJoin := by
  refine goesOn_get_bind fun s => ?_
  split
  · exact trivial
  · exact ⟨[], rfl, rfl⟩

theorem goesOn_rejectArithmetic : GoesOn rejectArithmetic := by
  intro s
  rw [run_rejectArithmetic]
  split
  · exact trivial
  · exact s.reaches_skipBlanks

theorem shows_word (s : Scanner) : s.Shows s.position (String.ofList s.word).toList := by
  rw [String.toList_ofList]
  exact .here (List.takeWhile_prefix _)

theorem goesOn_comparison : GoesOn comparison := by
  refine goesOn_rejectArithmetic.bind fun _ => goesOn_get_bind fun s => ?_
  split
  · exact ((goesOn_advance _).bind fun _ => goesOn_pure _) s
  · split
    · exact shows_word s
    · split
      · exact trivial
      · exact Scanner.Shows.here List.nil_prefix

-----------------------------------------------------------------------------------------
-- Operands
-----------------------------------------------------------------------------------------

theorem goesOn_quoted : GoesOn quoted := by
  refine goesOn_get_bind fun s => ?_
  split
  · exact ((goesOn_advance _).bind fun _ => goesOn_pure _) s
  · exact Scanner.Shows.here List.nil_prefix

theorem reaches_afterSuffix (s : Scanner) : s.Reaches (afterSuffix s) := by
  unfold afterSuffix
  split
  · exact s.reaches_advance 1
  · exact .refl s

/-- The errors of a number are about the place where it starts. -/
theorem allows_numberEnd {s m : Scanner} (reached : s.Reaches m) (numeral : Numeral)
    : s.Allows ((numberEnd s.position numeral).run m) := by
  rw [numberEnd, run_bind_of_ok (run_peek? m)]
  dsimp only
  split
  · exact Scanner.Shows.here List.nil_prefix
  · split
    · exact reached
    · exact trivial

theorem goesOn_number : GoesOn number := by
  refine goesOn_get_bind fun s => ?_
  dsimp only
  split
  · exact Scanner.Shows.here List.nil_prefix
  · rw [run_bind_of_ok (run_advance ..), run_bind_of_ok (run_peek? _)]
    have behind := reaches_afterSuffix (s.advance (Numeral.scan s.rest).1.text.length)
    have ends := allows_numberEnd ((s.reaches_advance _).trans behind) (Numeral.scan s.rest).1
    rw [afterSuffix] at ends
    split
    · next suffix =>
        rw [if_pos suffix] at ends
        rw [run_bind_of_ok (run_advance ..)]
        exact ends
    · next suffix =>
        rw [if_neg suffix] at ends
        exact ends

theorem goesOn_path : GoesOn path := by
  refine goesOn_get_bind fun s => ?_
  dsimp only
  split
  · split
    · rw [run_bind_of_ok (run_advance ..)]
      exact s.reaches_advance _
    · exact trivial
  · exact trivial

section Arguments

variable {arguments : Scan (List Operand)}

theorem goesOn_call (goesOn : GoesOn arguments) (name : String) : GoesOn (call name arguments) := by
  unfold call
  split
  · exact goesOn_fail fun _ => trivial
  · exact goesOn_reject _
  · next function _ known =>
      refine goesOn.bind fun operands => ?_
      split
      · exact goesOn_pure _
      · exact goesOn_fail fun _ => .inl ⟨function, Function.ofName?_eq_some.mp known⟩

theorem goesOn_wordOperand (goesOn : GoesOn arguments) : GoesOn (wordOperand arguments) := by
  refine goesOn_get_bind fun s => ?_
  have behind := s.reaches_advance s.word.length
  dsimp only
  split
  · rw [run_bind_of_ok (run_set ..)]
    exact (goesOn_quoted.bind fun _ => goesOn_pure _).ahead behind
  · split
    · exact behind
    · split
      · rw [run_bind_of_ok (run_set ..)]
        exact (goesOn_call goesOn _).ahead (behind.trans (Scanner.reaches_skipBlanks _))
      · split
        · exact trivial
        · split
          · exact shows_word s
          · exact goesOn_path s

theorem goesOn_operandWith (goesOn : GoesOn arguments) : GoesOn (operandWith arguments) := by
  refine goesOn_skipBlanks.bind fun _ => goesOn_get_bind fun s => ?_
  cases here : s.peek? with
  | none => exact trivial
  | some c =>
      dsimp only
      split
      · exact (goesOn_quoted.bind fun _ => goesOn_pure _) s
      · split
        · exact goesOn_number s
        · split
          · exact goesOn_wordOperand goesOn s
          · obtain ⟨rest, text⟩ := List.head?_eq_some_iff.mp here
            exact Scanner.Shows.here ⟨rest, by simpa using text.symm⟩

theorem goesOn_operandList {operand : Scan Operand} (goesOn : GoesOn operand) (steps : Nat)
    : GoesOn (operandList operand steps) := by
  induction steps with
  | zero => exact goesOn_pure _
  | succ steps ih =>
      refine goesOn.bind fun first => goesOn_skipBlanks.bind fun _ => goesOn_peek?.bind fun c => ?_
      split
      · exact (goesOn_advance 1).bind fun _ => ih.bind fun _ => goesOn_pure _
      · exact goesOn_pure _

theorem goesOn_argumentsWith {operand : Scan Operand} (goesOn : GoesOn operand)
    : GoesOn (argumentsWith operand) := by
  refine (goesOn_expect '(').bind fun _ => goesOn_skipBlanks.bind fun _ => ?_
  refine goesOn_get_bind fun s => ?_
  have closes (operands : List Operand) : GoesOn (do expect ')'; return operands) :=
    (goesOn_expect ')').bind fun _ => goesOn_pure _
  dsimp only
  split
  · exact ((goesOn_pure _).bind closes) s
  · exact ((goesOn_operandList goesOn _).bind closes) s

/-- By induction on the levels of parentheses that are left. -/
theorem goesOn_arguments (nesting : Nat) : GoesOn (Scan.arguments nesting) := by
  induction nesting with
  | zero => exact (goesOn_expect '(').bind fun _ => goesOn_fail fun _ => trivial
  | succ nesting ih =>
      rw [Scan.arguments, operand_eq]
      exact goesOn_argumentsWith (goesOn_operandWith ih)

theorem goesOn_operand (nesting : Nat) : GoesOn (operand nesting) := by
  rw [operand_eq]
  exact goesOn_operandWith (goesOn_arguments nesting)

end Arguments

-----------------------------------------------------------------------------------------
-- Conditions and filters
-----------------------------------------------------------------------------------------

section Conditions

variable {operand : Scan Operand} {arguments : Scan (List Operand)}

theorem goesOn_stringTest? (goesOn : GoesOn arguments) : GoesOn (stringTest? arguments) := by
  refine goesOn_get_bind fun s => ?_
  have behind := (s.reaches_advance s.word.length).trans (Scanner.reaches_skipBlanks _)
  dsimp only
  split
  · next test _ found =>
      rw [run_bind_of_ok (run_set ..)]
      refine GoesOn.ahead (goesOn.bind fun operands => ?_) behind
      split
      · exact goesOn_pure _
      · exact goesOn_fail fun _ => .inr ⟨test, rfl⟩
  · exact .refl s

/-- What is read as a string test is one. -/
theorem eq_stringTest_of_run {s s' : Scanner} {filter : Filter}
    (h : (stringTest? arguments).run s = .ok (some filter, s'))
    : ∃ test first second, filter = .stringTest test first second := by
  by_cases starts : ∃ test, StartsTest test s
  · obtain ⟨test, starts⟩ := starts
    obtain ⟨first, second, _, same⟩ := (run_stringTest?_eq_ok starts).mp h
    exact ⟨test, first, second, Option.some.inj same⟩
  · rw [run_stringTest?_none (not_exists.mp starts)] at h
    cases h

theorem goesOn_testComparison (goesOn : GoesOn operand) (test : StringTest)
    (first second : Operand)
    : GoesOn (testComparison operand (.stringTest test first second)) := by
  refine goesOn_peekWord.bind fun word => ?_
  split
  · exact goesOn_pure _
  · refine (goesOn_advance _).bind fun _ => goesOn.bind fun right => ?_
    split
    · exact goesOn_pure _
    · exact goesOn_pure _
    · exact goesOn_reject _
    · exact goesOn_reject _
    · exact goesOn_fail fun _ => ⟨test, first, second, rfl⟩

theorem goesOn_conditionWith {group : Scan Filter} (readsOperand : GoesOn operand)
    (readsArguments : GoesOn arguments) (readsGroup : GoesOn group)
    : GoesOn (conditionWith operand arguments group) := by
  refine goesOn_skipBlanks.bind fun _ => goesOn_peek?.bind fun c => ?_
  split
  · exact (goesOn_advance 1).bind fun _ => readsGroup.bind fun _ =>
      (goesOn_expect ')').bind fun _ => goesOn_pure _
  · intro s
    refine allows_bind (goesOn_stringTest? readsArguments s) fun found m read reached => ?_
    cases found with
    | some filter =>
        obtain ⟨test, first, second, rfl⟩ := eq_stringTest_of_run read
        exact (goesOn_testComparison readsOperand test first second).ahead reached
    | none =>
        refine GoesOn.ahead ?_ reached
        exact readsOperand.bind fun _ => goesOn_comparison.bind fun _ => readsOperand.bind fun _ =>
          goesOn_rejectArithmetic.bind fun _ => goesOn_pure _

end Conditions

section Chains

variable {keyword : List Char} {join : Filter → Filter → Filter} {part : Scan Filter}

/-- By induction on the joins that are left. -/
theorem goesOn_chainAfter (goesOn : GoesOn part) (steps : Nat) (left : Filter)
    : GoesOn (chainAfter keyword join part steps left) := by
  induction steps generalizing left with
  | zero =>
      refine (goesOn_takeKeyword keyword).bind fun taken => ?_
      split
      · exact goesOn_fail fun _ => trivial
      · exact goesOn_pure _
  | succ steps ih =>
      refine (goesOn_takeKeyword keyword).bind fun taken => ?_
      split
      · exact goesOn_takeJoin.bind fun _ => goesOn.bind fun right => ih (join left right)
      · exact goesOn_pure _

theorem goesOn_chain (goesOn : GoesOn part) : GoesOn (chain keyword join part) :=
  goesOn.bind fun first => goesOn_get_bind fun s => goesOn_chainAfter goesOn s.joins first s

end Chains

theorem goesOn_disjunction {condition : Scan Filter} (goesOn : GoesOn condition)
    : GoesOn (disjunction condition) :=
  goesOn_chain (goesOn_chain goesOn)

/-- By induction on the levels of parentheses that are left. -/
theorem goesOn_condition (nesting : Nat) : GoesOn (condition nesting) := by
  induction nesting with
  | zero =>
      exact goesOn_conditionWith (goesOn_operand 0) (goesOn_arguments 0)
        (goesOn_fail fun _ => trivial)
  | succ nesting ih =>
      exact goesOn_conditionWith (goesOn_operand _) (goesOn_arguments _) (goesOn_disjunction ih)

theorem goesOn_filter : GoesOn filter := by
  refine goesOn_skipBlanks.bind fun _ => goesOn_get_bind fun start => ?_
  split
  · exact trivial
  · refine GoesOn.bind (goesOn_disjunction (goesOn_condition maxNesting)) (fun found => ?_) start
    refine goesOn_skipBlanks.bind fun _ => goesOn_get_bind fun s => ?_
    split
    · exact .refl s
    · exact Scanner.Shows.here ⟨[], by rw [String.toList_ofList, List.append_nil]⟩

end Scan

/-- Why a filter text cannot be read is true of it. -/
theorem Filter.isTrueAt_of_parse {text : String} {error : QueryError}
    (h : Filter.parse text = .error error)
    : error.IsTrueAt ⟨text.toList, 0, Scan.maxJoins⟩ := by
  have allowed := Scan.goesOn_filter ⟨text.toList, 0, Scan.maxJoins⟩
  rw [Filter.parse] at h
  cases outcome : Scan.filter.run ⟨text.toList, 0, Scan.maxJoins⟩ with
  | ok result =>
      rw [outcome] at h
      cases h
  | error found =>
      rw [outcome] at h allowed
      cases h
      exact allowed

end RecordQuery
