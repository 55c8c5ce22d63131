import RecordQuery.Proofs.Filter.Literals
import RecordQuery.Proofs.Filter.Names
import RecordQuery.Proofs.Filter.PathOperands

/-! Operands that start with a word: typed texts, constants, calls and paths. The reader decides by
the whole word and by what comes behind it, and each of these operands is read where it is written.
-/

namespace RecordQuery.Scan

open Grammar

variable {arguments : Scan (List Operand)} {s : Scanner}

-----------------------------------------------------------------------------------------
-- What the reader decides by
-----------------------------------------------------------------------------------------

/-- A text of a type stands here. -/
abbrev startsTyped (s : Scanner) : Prop :=
  String.ofList s.word ∈ Scan.literalTypes ∧ (s.advance s.word.length).peek? = some '\''

/-- A constant stands here, and not the first name of a path. -/
abbrev startsConstant (s : Scanner) : Prop :=
  (wordValue? (String.ofList s.word)).isSome ∧ (s.advance s.word.length).peek? ≠ some '/'

theorem run_wordOperand_typed (typed : startsTyped s)
    : (wordOperand arguments).run s
      = (do return .literal (.string (← quoted)) : Scan Operand).run (s.advance s.word.length) := by
  rw [wordOperand, run_bind_of_ok (run_get s)]
  dsimp only
  rw [if_pos typed, run_bind_of_ok (run_set ..)]

theorem run_wordOperand_constant {value : Json} (typed : ¬ startsTyped s)
    (known : wordValue? (String.ofList s.word) = some value)
    (slash : (s.advance s.word.length).peek? ≠ some '/')
    : (wordOperand arguments).run s = .ok (.literal value, s.advance s.word.length) := by
  rw [wordOperand, run_bind_of_ok (run_get s)]
  dsimp only
  rw [if_neg typed, known, beq_false_of_ne slash]
  dsimp only
  rw [run_bind_of_ok (run_set ..), run_pure]

/-- Where neither a typed text nor a constant stands, a call or a path has to. -/
theorem run_wordOperand_other (typed : ¬ startsTyped s) (constant : ¬ startsConstant s)
    : (wordOperand arguments).run s
      = if (s.advance s.word.length).skipBlanks.peek? = some '(' then
          (call (String.ofList s.word) arguments).run (s.advance s.word.length).skipBlanks
        else if String.ofList s.word ∈ unsupportedOperators then
          .error (.unsupported (.operator (String.ofList s.word)))
        else if String.ofList s.word = "and" ∨ String.ofList s.word = "or"
            ∨ (Comparison.ofName? (String.ofList s.word)).isSome then
          .error (.parse (.expectedOperand s.position (String.ofList s.word)))
        else path.run s := by
  rw [wordOperand, run_bind_of_ok (run_get s)]
  dsimp only
  rw [if_neg typed]
  split
  · next value known slash =>
      exact absurd ⟨by simp [known], by simpa using slash⟩ constant
  · split
    · rw [run_bind_of_ok (run_set ..)]
    · split
      · rfl
      · split
        · rfl
        · rfl

variable {phrase : Phrase (List Operand)} {s' : Scanner} {operand : Operand}

/-- A call has a function's name and as many arguments as the function takes. -/
theorem run_call_eq_ok {name : String}
    : (call name arguments).run s = .ok (operand, s')
      ↔ ∃ function : Function, function.name = name ∧ ∃ operands,
          arguments.run s = .ok (operands, s')
          ∧ Operand.call? function operands = some operand := by
  unfold call
  split
  · next test found =>
      have clash : ∀ function ∈ Function.all, function.name ≠ test.name := by
        cases test <;> decide
      rw [StringTest.ofName?_eq_some] at found
      simp only [run_fail, reduceCtorEq, false_iff, not_exists, not_and]
      exact fun function same => absurd (same.trans found.symm) (clash function function.mem_all)
  · next unknown =>
      simp only [run_reject, reduceCtorEq, false_iff, not_exists, not_and]
      intro function same
      rw [← Function.ofName?_eq_some, unknown] at same
      simp at same
  · next function _ known =>
      rw [run_bind_eq_ok]
      constructor
      · intro held
        obtain ⟨operands, m, read, called⟩ := held
        cases arity : Operand.call? function operands with
        | none => simp [arity] at called
        | some operand =>
            simp only [arity, run_pure, Except.ok.injEq, Prod.mk.injEq] at called
            obtain ⟨rfl, rfl⟩ := called
            exact ⟨function, Function.ofName?_eq_some.mp known, operands, read, arity⟩
      · intro held
        obtain ⟨same, name, operands, read, arity⟩ := held
        rw [← Function.ofName?_eq_some, known] at name
        cases name
        exact ⟨operands, s', read, by rw [arity, run_pure]⟩

-----------------------------------------------------------------------------------------
-- What is read at a word was written there
-----------------------------------------------------------------------------------------

theorem word_append_rest (s : Scanner) : s.word ++ (s.advance s.word.length).rest = s.rest := by
  rw [Scanner.rest_advance, Scanner.word, Text.drop_length_takeWhile,
    List.takeWhile_append_dropWhile]

/-- A path is read where its first name is neither a constant nor reserved. -/
theorem operand_of_path (solid : afterBlanks s.rest = s.rest)
    (digit : ∀ c ∈ s.rest.head?, Text.isDigit c = false) (constant : ¬ startsConstant s)
    (reserved : String.ofList s.word ∉ reservedWords) (h : path.run s = .ok (operand, s'))
    : OperandWith phrase operand s.rest s'.rest ∧ s'.joins = s.joins := by
  obtain ⟨joins, path, rfl, text, last, slash, words⟩ := path_of_run h
  obtain ⟨name, more, first, start, goesOn, run⟩ := takeWhile_text words last
  rw [← text] at run
  have word : String.ofList s.word = name := by
    rw [Scanner.word, run, String.ofList_toList]
  refine ⟨.path path ⟨words, ?_, ?_, ?_⟩ ⟨solid.trans text, last⟩, joins⟩
  · intro c found
    refine digit c ?_
    obtain ⟨rest, chars⟩ := List.head?_eq_some_iff.mp found
    rw [text, chars]
    rfl
  · intro found same
    rw [Option.mem_def, first] at same
    cases same
    exact word ▸ reserved
  · intro known
    -- a constant has one name, so nothing follows it, and a path would go on at a slash
    have nothing : more = [] := by
      refine goesOn.resolve_right (fun follows => ?_)
      obtain ⟨⟨_, value⟩, listed, rfl⟩ := List.mem_map.mp known
      obtain ⟨rest, rfl⟩ := List.head?_eq_some_iff.mp follows
      exact absurd ((isWord_constant listed).2.1 '/' (by simp [start])) (by decide)
    have whole : String.ofList s.word = path.text := by
      rw [word, ← String.toList_inj, start, nothing, List.append_nil]
    have left : (s.advance s.word.length).rest = s'.rest := by
      refine List.append_cancel_left ((word_append_rest s).trans ?_)
      rw [text, ← whole, String.toList_ofList]
    refine constant ⟨?_, by rw [Scanner.peek?, left]; exact slash⟩
    rw [whole, Option.isSome_iff_ne_none, ne_eq, wordValue?_eq_none]
    exact fun unknown => unknown known

/-- What is read at a word is an operand that starts with it. -/
theorem operand_of_wordOperand (sound : IsSound arguments phrase) (blanks : IgnoresBlanks phrase)
    (solid : afterBlanks s.rest = s.rest) (digit : ∀ c ∈ s.rest.head?, Text.isDigit c = false)
    (h : (wordOperand arguments).run s = .ok (operand, s'))
    : OperandWith phrase operand s.rest s'.rest ∧ s'.joins = s.joins := by
  have spelling : Word (String.ofList s.word) s.rest (s.advance s.word.length).rest :=
    ⟨by rw [solid, String.toList_ofList, word_append_rest], endsWord_drop_takeWhile s.rest⟩
  by_cases typed : startsTyped s
  · rw [run_wordOperand_typed typed, run_bind_eq_ok] at h
    obtain ⟨text, m, read, last⟩ := h
    cases last
    obtain ⟨quoted, joins⟩ := quoted_of_run typed.2 read
    refine ⟨.typed (String.ofList s.word) text typed.1 ?_, joins⟩
    rw [solid, String.toList_ofList, ← quoted, word_append_rest]
  by_cases constant : startsConstant s
  · obtain ⟨value, known⟩ := Option.isSome_iff_exists.mp constant.1
    rw [run_wordOperand_constant typed known constant.2] at h
    cases h
    exact ⟨.constant (wordValue?_eq_some.mp known) ⟨spelling, constant.2⟩, rfl⟩
  rw [run_wordOperand_other typed constant] at h
  split at h
  · obtain ⟨function, name, operands, read, arity⟩ := run_call_eq_ok.mp h
    obtain ⟨list, joins⟩ := sound read
    rw [Scanner.rest_skipBlanks] at list
    exact ⟨.call function (name ▸ spelling) (blanks (by simp) list) arity, joins⟩
  · split at h
    · simp at h
    · split at h
      · simp at h
      · next unsupported connective =>
          refine operand_of_path solid digit constant ?_ h
          exact fun member => (mem_reservedWords.mp member).elim unsupported connective

-----------------------------------------------------------------------------------------
-- What is written at a word is read there
-----------------------------------------------------------------------------------------

/-- Where a word is whole, it is the word that starts here. -/
theorem word_eq {word : List Char} {rest : List Char} (spelling : s.rest = word ++ rest)
    (chars : ∀ c ∈ word, Text.isWordChar c = true) (ends : EndsWord rest)
    : s.word = word ∧ (s.advance s.word.length).rest = rest := by
  have same : s.word = word := by
    rw [Scanner.word, spelling]
    exact Text.takeWhile_append_of_stops chars ends
  refine ⟨same, ?_⟩
  rw [Scanner.rest_advance, same, spelling, List.drop_left]

/-- A typed text is read where it is written. -/
theorem run_wordOperand_of_typed {type text : String} {rest : List Char}
    (known : type ∈ Grammar.literalTypes)
    (spelling : s.rest = type.toList ++ (Text.quoted text ++ rest))
    (closes : rest.head? ≠ some '\'')
    : ∃ s', (wordOperand arguments).run s = .ok (.literal (.string text), s') ∧ s'.rest = rest
        ∧ s'.joins = s.joins := by
  obtain ⟨word, left⟩ := word_eq spelling (isWord_literalType known).2.1
    (Text.stops_cons (by decide) _)
  have typed : startsTyped s := by
    refine ⟨?_, by rw [Scanner.peek?, left]; rfl⟩
    rw [word, String.ofList_toList]
    exact known
  obtain ⟨s', read, behind, joins⟩ := run_quoted left closes
  refine ⟨s', ?_, behind, joins⟩
  rw [run_wordOperand_typed typed, run_bind_of_ok read, run_pure]

theorem run_wordOperand_of_constant {word : String} {value : Json} {rest : List Char}
    (known : (word, value) ∈ constants) (spelling : s.rest = word.toList ++ rest)
    (ends : EndsWord rest) (slash : rest.head? ≠ some '/')
    : ∃ s', (wordOperand arguments).run s = .ok (.literal value, s') ∧ s'.rest = rest
        ∧ s'.joins = s.joins := by
  obtain ⟨same, left⟩ := word_eq spelling (isWord_constant known).2.1 ends
  have noType : ∀ constant ∈ constants, constant.1 ∉ Scan.literalTypes := by decide
  refine ⟨s.advance s.word.length, run_wordOperand_constant ?_ ?_ ?_, left, rfl⟩
  · intro held
    obtain ⟨type, _⟩ := held
    rw [same, String.ofList_toList] at type
    exact noType _ known type
  · rw [same, String.ofList_toList]
    exact wordValue?_eq_some.mpr known
  · rw [Scanner.peek?, left]
    exact slash

theorem run_wordOperand_of_call (complete : IsComplete (fun _ => True) arguments phrase)
    (blanks : IgnoresBlanks phrase) (opens : Opens phrase) {function : Function}
    {operands : List Operand} {inner rest : List Char}
    (spelling : s.rest = function.name.toList ++ inner) (ends : EndsWord inner)
    (list : phrase operands inner rest) (arity : Operand.call? function operands = some operand)
    : ∃ s', (wordOperand arguments).run s = .ok (operand, s') ∧ s'.rest = rest
        ∧ s'.joins = s.joins := by
  obtain ⟨same, left⟩ := word_eq spelling function.isWord_name.2.1 ends
  have noType : ∀ function ∈ Function.all, function.name ∉ Scan.literalTypes := by decide
  have noConstant : ∀ function ∈ Function.all, wordValue? function.name = none := by
    decide
  have opening : (s.advance s.word.length).skipBlanks.peek? = some '(' := by
    rw [Scanner.peek?_skipBlanks, left]
    exact opens operands inner rest list
  obtain ⟨s', read, behind, joins⟩ := complete (s := (s.advance s.word.length).skipBlanks)
    (blanks (by rw [Scanner.rest_skipBlanks, left, afterBlanks_afterBlanks]) list) trivial
  refine ⟨s', ?_, behind, joins⟩
  rw [run_wordOperand_other, if_pos opening]
  · exact run_call_eq_ok.mpr ⟨function, by rw [same, String.ofList_toList], operands, read, arity⟩
  · intro held
    obtain ⟨type, _⟩ := held
    rw [same, String.ofList_toList] at type
    exact noType function function.mem_all type
  · intro held
    obtain ⟨constant, _⟩ := held
    rw [same, String.ofList_toList, noConstant function function.mem_all] at constant
    simp at constant

theorem run_wordOperand_of_path {path : PropertyPath} {rest : List Char}
    (isPath : IsOperandPath path) (spelling : s.rest = path.text.toList ++ rest)
    (ends : EndsWord rest) (slash : rest.head? ≠ some '/') (quote : rest.head? ≠ some '\'')
    (opening : (afterBlanks rest).head? ≠ some '(')
    : ∃ s', (wordOperand arguments).run s = .ok (.property path, s') ∧ s'.rest = rest
        ∧ s'.joins = s.joins := by
  obtain ⟨name, more, first, start, goesOn, run⟩ := takeWhile_text isPath.identifiers ends
  have word : s.word = name.toList := by rw [Scanner.word, spelling, run]
  have left : (s.advance s.word.length).rest = more ++ rest := by
    rw [Scanner.rest_advance, word, spelling, start, List.append_assoc, List.drop_left]
  have behind (mark : Char) (other : mark ≠ '/') (follows : rest.head? ≠ some mark)
      : (more ++ rest).head? ≠ some mark := by
    rcases goesOn with rfl | slash
    · exact follows
    · obtain ⟨more, rfl⟩ := List.head?_eq_some_iff.mp slash
      exact fun same => other (Option.some.inj same).symm
  have noOpening : (afterBlanks (more ++ rest)).head? ≠ some '(' := by
    rcases goesOn with rfl | slash
    · exact opening
    · obtain ⟨more, rfl⟩ := List.head?_eq_some_iff.mp slash
      exact fun same => absurd (Option.some.inj same) (by decide)
  have unreserved := mt mem_reservedWords.mpr (isPath.reserved name first)
  obtain ⟨s', read, last, joins⟩ := run_path isPath.identifiers spelling ends slash
  refine ⟨s', ?_, last, joins⟩
  rw [run_wordOperand_other, Scanner.peek?_skipBlanks, left, if_neg noOpening, word,
    String.ofList_toList, if_neg (fun h => unreserved (.inl h)),
    if_neg (fun h => unreserved (.inr h))]
  · exact read
  · intro held
    obtain ⟨_, typed⟩ := held
    rw [Scanner.peek?, left] at typed
    exact behind '\'' (by decide) quote typed
  · intro held
    obtain ⟨known, other⟩ := held
    rw [Scanner.peek?, left] at other
    rcases goesOn with rfl | slash
    · rw [word, Option.isSome_iff_ne_none, ne_eq, wordValue?_eq_none, String.ofList_toList] at known
      refine known ?_
      have whole : path.text = name := by rw [← String.toList_inj, start, List.append_nil]
      exact whole ▸ isPath.constant
    · obtain ⟨more, rfl⟩ := List.head?_eq_some_iff.mp slash
      exact other rfl

end RecordQuery.Scan
