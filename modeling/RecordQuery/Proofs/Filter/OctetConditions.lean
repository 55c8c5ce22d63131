import RecordQuery.Proofs.Filter.OctetOperands

/-! Conditions and whole filters on octets. The reader goes back behind a word that turns out to be
no test, counts its joins upwards and has as many levels as parentheses may be open. It gives what
the reader of characters gives, and stops where that one does.
-/

namespace RecordQuery.Reading

variable {α : Type} {text : List Char} {depth : Nat} {s s' : Scanner}

-----------------------------------------------------------------------------------------
-- Comparisons
-----------------------------------------------------------------------------------------

theorem follows_rejectArithmetic
    : Follows text depth (rejectArithmetic text) Scan.rejectArithmetic := by
  refine follows_peekWord.bind fun word => ?_
  dsimp only
  split
  · exact follows_reject _
  · exact follows_pure _

theorem follows_comparison : Follows text depth (comparison text) Scan.comparison := by
  intro s h
  refine (follows_rejectArithmetic s h).bind fun _ m checked isIn => ?_
  have solid : m.skipBlanks = m := by
    rw [Scan.run_rejectArithmetic] at checked
    split at checked
    · cases checked
    · cases checked
      exact s.skipBlanks_skipBlanks
  have word : (peekWord text).run (m.cursor depth) = .ok (m.word, m.cursor depth) := by
    rw [run_peekWord isIn, solid]
  rw [run_bind_of_ok word, Scan.run_bind_of_ok (Scan.run_get m)]
  cases Comparison.ofName? (String.ofList m.word) with
  | some operator =>
      dsimp only
      rw [run_bind_of_ok (run_advance_word isIn), Scan.run_bind_of_ok (Scan.run_advance ..)]
      exact .ok (isIn.advance _) operator
  | none =>
      dsimp only
      rw [run_bind_of_ok (run_get _)]
      by_cases named : m.word = []
      · rw [if_neg (by simp [named]), if_neg (by simp [named]), run_bind_of_ok (run_isAtEnd isIn)]
        split
        · exact .error _
        · exact .error _
      · rw [if_pos named, if_pos (by simp [named])]
        exact .error _

-----------------------------------------------------------------------------------------
-- Tests
-----------------------------------------------------------------------------------------

section Conditions

variable {octetOperand : Reading Operand} {charOperand : Scan Operand}
  {octetArguments : Reading (List Operand)} {charArguments : Scan (List Operand)}
  {octetGroup : Reading Filter} {charGroup : Scan Filter}

theorem follows_testComparison (operand : Follows text depth octetOperand charOperand)
    (test : Filter)
    : Follows text depth (testComparison text octetOperand test)
        (Scan.testComparison charOperand test) := by
  intro s h
  rw [testComparison, run_bind_of_ok (run_peekWord h), Scan.testComparison,
    Scan.run_bind_of_ok (Scan.run_peekWord s)]
  cases found : Comparison.ofName? (String.ofList s.skipBlanks.word) with
  | none => exact .ok h.skipBlanks test
  | some operator =>
      have name : operator.name.toList = s.skipBlanks.word := by
        rw [Comparison.ofName?_eq_some.mp found, String.toList_ofList]
      dsimp only
      rw [name, run_bind_of_ok (run_advance_word h.skipBlanks),
        Scan.run_bind_of_ok (Scan.run_advance ..)]
      refine (operand _ (h.skipBlanks.advance _)).bind fun right m _ isIn => ?_
      cases operator with
      | eq =>
          cases right with
          | literal value =>
              cases value with
              | bool truth =>
                  cases truth
                  · exact .error _
                  · exact .ok isIn test
              | _ => exact .error _
          | _ => exact .error _
      | ne =>
          cases right with
          | literal value =>
              cases value with
              | bool truth =>
                  cases truth
                  · exact .ok isIn test
                  · exact .error _
              | _ => exact .error _
          | _ => exact .error _
      | _ => exact .error _

/-- What a condition starts with, as the reader of characters decides it. -/
def charTerm (operand : Scan Operand) (arguments : Scan (List Operand)) : Scan Term := do
  Scan.skipBlanks
  match ← Scan.stringTest? arguments with
  | some test => return .test test
  | none => return .operand (← operand)

/-- The condition that starts so, as the reader of characters reads it. -/
def charTermCondition (operand : Scan Operand) : Term → Scan Filter
  | .test filter => Scan.testComparison operand filter
  | .operand left => do
    let operator ← Scan.comparison
    let right ← operand
    Scan.rejectArithmetic
    return .comparison operator left right

/-- Where no test stands, the reader goes back to where an operand has to start. -/
theorem run_term_none (h : s.IsIn text) (none : ∀ test, ¬ Scan.StartsTest test s.skipBlanks)
    : (term text octetOperand octetArguments).run (s.cursor depth)
      = (do return .operand (← octetOperand) : Reading Term).run (s.skipBlanks.cursor depth) := by
  have isIn := h.skipBlanks
  rw [term, run_bind_of_ok (run_peekWord h)]
  cases found : StringTest.ofName? (String.ofList s.skipBlanks.word) with
  | none => rfl
  | some test =>
      have name := StringTest.ofName?_eq_some.mp found
      have chars : test.name.toList = s.skipBlanks.word := by rw [name, String.toList_ofList]
      have behind := isIn.advance s.skipBlanks.word.length
      have noOpening : (s.skipBlanks.advance s.skipBlanks.word.length).skipBlanks.peek?
          ≠ some '(' :=
        fun opening => none test ⟨name, opening⟩
      dsimp only
      rw [run_bind_of_ok (run_get _), chars, run_bind_of_ok (run_advance_word isIn),
        run_bind_of_ok (run_skipBlanks behind), run_bind_of_ok (run_peek behind.skipBlanks),
        if_neg noOpening, Scanner.position_cursor, run_bind_of_ok (run_moveTo
          (s := (s.skipBlanks.advance s.skipBlanks.word.length).skipBlanks) isIn rfl)]

/-- Where a test stands, its arguments are read. -/
theorem run_term_test {test : StringTest} (h : s.IsIn text)
    (starts : Scan.StartsTest test s.skipBlanks)
    : (term text octetOperand octetArguments).run (s.cursor depth)
      = (octetArguments >>= testWith test).run
          ((s.skipBlanks.advance s.skipBlanks.word.length).skipBlanks.cursor depth) := by
  have isIn := h.skipBlanks
  have chars : test.name.toList = s.skipBlanks.word := by rw [starts.1, String.toList_ofList]
  have behind := isIn.advance s.skipBlanks.word.length
  rw [term, run_bind_of_ok (run_peekWord h), StringTest.ofName?_eq_some.mpr starts.1]
  dsimp only
  rw [run_bind_of_ok (run_get _), chars, run_bind_of_ok (run_advance_word isIn),
    run_bind_of_ok (run_skipBlanks behind), run_bind_of_ok (run_peek behind.skipBlanks),
    if_pos starts.2]

/-- Where a test stands, the reader of characters reads its arguments too. -/
theorem run_stringTest?_bind {next : Option Filter → Scan α} {test : StringTest}
    (starts : Scan.StartsTest test s)
    : (Scan.stringTest? charArguments >>= next).run s
      = (charArguments >>= fun operands =>
          match operands with
          | [first, second] => next (some (.stringTest test first second))
          | operands => Scan.fail (.argumentCount test.name 2 operands.length)).run
          (s.advance s.word.length).skipBlanks := by
  rw [Scan.stringTest?, bind_assoc, Scan.run_bind_of_ok (Scan.run_get s)]
  dsimp only
  rw [StringTest.ofName?_eq_some.mpr starts.1, starts.2, beq_self_eq_true]
  dsimp only
  rw [bind_assoc, Scan.run_bind_of_ok (Scan.run_set ..), bind_assoc]
  congr 2
  funext operands
  rcases operands with _ | ⟨first, _ | ⟨second, _ | ⟨third, others⟩⟩⟩
  · rfl
  · rfl
  · rfl
  · rfl

/-- What a condition starts with is decided alike, by cases of whether a test stands there. -/
theorem follows_term (operand : Follows text depth octetOperand charOperand)
    (arguments : Follows text depth octetArguments charArguments)
    : Follows text depth (term text octetOperand octetArguments)
        (charTerm charOperand charArguments) := by
  intro s h
  have isIn := h.skipBlanks
  rw [charTerm, Scan.run_bind_of_ok (Scan.run_skipBlanks s)]
  by_cases starts : ∃ test, Scan.StartsTest test s.skipBlanks
  · obtain ⟨test, starts⟩ := starts
    rw [run_term_test h starts, run_stringTest?_bind starts]
    refine (arguments _ (isIn.advance _).skipBlanks).bind fun operands m _ isIn => ?_
    rcases operands with _ | ⟨first, _ | ⟨second, _ | ⟨third, others⟩⟩⟩
    · exact .error _
    · exact .error _
    · exact .ok isIn _
    · exact .error _
  · rw [run_term_none h (not_exists.mp starts),
      Scan.run_bind_of_ok (Scan.run_stringTest?_none (not_exists.mp starts))]
    exact (operand _ isIn).bind fun left m _ isIn => .ok isIn _

theorem follows_termCondition (operand : Follows text depth octetOperand charOperand) (term : Term)
    : Follows text depth (termCondition text octetOperand term)
        (charTermCondition charOperand term) := by
  cases term with
  | test filter => exact follows_testComparison operand filter
  | operand left =>
      exact follows_comparison.bind fun _ => operand.bind fun _ =>
        follows_rejectArithmetic.bind fun _ => follows_pure _

/-- A condition is its start and what comes of it. -/
theorem run_charTerm (s : Scanner)
    : (charTerm charOperand charArguments >>= charTermCondition charOperand).run s.skipBlanks
      = (do
          match ← Scan.stringTest? charArguments with
          | some test => Scan.testComparison charOperand test
          | none =>
            let left ← charOperand
            let operator ← Scan.comparison
            let right ← charOperand
            Scan.rejectArithmetic
            return .comparison operator left right : Scan Filter).run s.skipBlanks := by
  rw [charTerm, bind_assoc, Scan.run_bind_of_ok (Scan.run_skipBlanks _),
    Scanner.skipBlanks_skipBlanks, bind_assoc]
  congr 2
  funext found
  cases found with
  | some test => rfl
  | none => simp [charTermCondition]

/-- A condition is read alike where a group is. -/
theorem follows_conditionWith (operand : Follows text depth octetOperand charOperand)
    (arguments : Follows text depth octetArguments charArguments)
    (group : Follows text depth (groupWith text octetGroup)
      (do let filter ← charGroup; Scan.expect ')'; return filter))
    : Follows text depth (conditionWith text octetOperand octetArguments octetGroup)
        (Scan.conditionWith charOperand charArguments charGroup) := by
  intro s h
  have isIn := h.skipBlanks
  rw [conditionWith, run_bind_of_ok (run_skipBlanks h), run_bind_of_ok (run_peek isIn),
    Scan.conditionWith, Scan.run_bind_of_ok (Scan.run_skipBlanks s),
    Scan.run_bind_of_ok (Scan.run_peek? _)]
  split
  · next opening =>
      rw [run_bind_of_ok (run_advance_one isIn opening rfl),
        Scan.run_bind_of_ok (Scan.run_advance ..)]
      exact group _ (isIn.advance 1)
  · have read := (follows_term operand arguments).bind (follows_termCondition operand) _ isIn
    rw [run_charTerm] at read
    exact read

/-- A group is read under one more parenthesis. -/
theorem follows_groupWith (group : Follows text (depth + 1) octetGroup charGroup)
    (shallow : depth < Scan.maxNesting)
    : Follows text depth (groupWith text octetGroup)
        (do let filter ← charGroup; Scan.expect ')'; return filter) := by
  intro s h
  rw [groupWith, run_bind_of_ok (run_enter shallow)]
  refine (group s h).bind fun filter m _ isIn => ?_
  refine (follows_expect ')' m isIn).bind fun _ last _ isIn => ?_
  rw [run_bind_of_ok (run_leave last depth)]
  exact .ok isIn filter

theorem follows_noGroup (deep : Scan.maxNesting ≤ depth)
    : Follows text depth (groupWith text octetGroup)
        (do let filter ← Scan.fail .nestedTooDeeply; Scan.expect ')'; return filter) := by
  intro s _
  rw [groupWith, run_bind_of_error (run_enter_deep deep)]
  exact .error _

end Conditions

-----------------------------------------------------------------------------------------
-- Chains
-----------------------------------------------------------------------------------------

section Chains

variable {keyword : List Char} {join : Filter → Filter → Filter} {octetPart : Reading Filter}
  {charPart : Scan Filter} {phrase : Grammar.Phrase Filter}

theorem run_countJoin (c : Cursor)
    : countJoin.run c
      = if Scan.maxJoins < c.joins + 1 then .error (.error (.parse .tooManyClauses))
        else .ok ((), { c with joins := c.joins + 1 }) := by
  rw [countJoin]
  change (if Scan.maxJoins < c.joins + 1 then _ else _ : Reading Unit).run _ = _
  split
  · rfl
  · rfl

/-- A join is counted upwards where one is taken of those that are left. -/
theorem follows_countJoin : Follows text depth countJoin Scan.takeJoin := by
  intro s h
  obtain ⟨rest, position, joins⟩ := s
  have few : joins ≤ Scan.maxJoins := h.joins
  rw [run_countJoin, Scan.takeJoin, Scan.run_bind_of_ok (Scan.run_get _), Scanner.cursor]
  cases joins with
  | zero =>
      rw [if_pos (by simp)]
      exact .error _
  | succ joins =>
      have room : Scan.maxJoins - (joins + 1) + 1 = Scan.maxJoins - joins := by omega
      dsimp only
      rw [room, if_neg (by omega)]
      exact .ok (s := ⟨rest, position, joins⟩) ⟨h.split, Nat.le_of_succ_le few⟩ ()

/-- Behind a keyword there is less left. -/
theorem fewer_takeKeyword (nonempty : keyword ≠ []) {taken : Bool}
    (h : (Scan.takeKeyword keyword).run s = .ok (taken, s'))
    : s'.joins = s.joins ∧ (taken = true → Text.octetCount s'.rest < Text.octetCount s.rest) := by
  rw [Scan.run_takeKeyword] at h
  split at h
  · next word =>
      cases h
      refine ⟨rfl, fun _ => ?_⟩
      have split := Scan.word_append_rest s.skipBlanks
      have before := s.reaches_skipBlanks.fewer
      have octets : Text.octetCount keyword ≠ 0 := fun none =>
        nonempty (Text.octetCount_eq_zero_iff.mp none)
      rw [word] at split
      rw [← split, Text.octetCount_append] at before
      omega
  · cases h
    exact ⟨rfl, fun taken => by cases taken⟩

/-- A chain goes on alike, by induction on the steps of the octet reader: each keyword takes octets,
and the other one has as many steps as joins are left.
-/
theorem agree_chainAfter (nonempty : keyword ≠ [])
    (follows : Follows text depth octetPart charPart) (goesOn : Scan.GoesOn charPart)
    (sound : Scan.IsFilterSound charPart phrase) {steps count : Nat} (h : s.IsIn text)
    (enough : Text.octetCount s.rest < steps) (room : s.joins ≤ count) (left : Filter)
    : Agree text depth
        ((chainAfter text keyword join octetPart steps left).run (s.cursor depth))
        ((Scan.chainAfter keyword join charPart count left).run s) := by
  induction steps generalizing s count left with
  | zero => exact absurd enough (Nat.not_lt_zero _)
  | succ steps ih =>
      cases count with
      | zero =>
          refine (follows_takeKeyword keyword s h).bind fun taken m read isIn => ?_
          obtain ⟨joins, _⟩ := fewer_takeKeyword nonempty read
          cases taken with
          | false => exact .ok isIn left
          | true =>
              have full : countJoin.run (m.cursor depth)
                  = .error (.error (.parse .tooManyClauses)) := by
                rw [run_countJoin, if_pos]
                simp only [Scanner.cursor]
                omega
              rw [if_pos rfl, run_bind_of_error full]
              exact .error _
      | succ count =>
          refine (follows_takeKeyword keyword s h).bind fun taken m read isIn => ?_
          obtain ⟨joins, fewer⟩ := fewer_takeKeyword nonempty read
          cases taken with
          | false => exact .ok isIn left
          | true =>
              rw [if_pos rfl, if_pos rfl]
              refine (follows_countJoin m isIn).bind fun _ m' counted isIn => ?_
              obtain ⟨same, taken, _⟩ := Scan.run_takeJoin_eq_ok.mp counted
              refine (follows m' isIn).bind fun right last part isIn => ?_
              obtain ⟨_, _, _, total⟩ := sound part
              have ahead : m'.Reaches last := by
                have allowed := goesOn m'
                rw [part] at allowed
                exact allowed
              have shorter := ahead.fewer.1
              have less := fewer rfl
              rw [same] at shorter
              exact ih isIn (by omega) (by omega) (join left right)

theorem follows_chain (nonempty : keyword ≠ []) (follows : Follows text depth octetPart charPart)
    (goesOn : Scan.GoesOn charPart) (sound : Scan.IsFilterSound charPart phrase)
    : Follows text depth (chain text keyword join octetPart)
        (Scan.chain keyword join charPart) := by
  intro s h
  refine (follows s h).bind fun first m _ isIn => ?_
  rw [Scan.run_bind_of_ok (Scan.run_get m)]
  exact agree_chainAfter nonempty follows goesOn sound isIn isIn.octets_lt (Nat.le_refl _) first

theorem follows_conjunction (follows : Follows text depth octetPart charPart)
    (goesOn : Scan.GoesOn charPart) (sound : Scan.IsFilterSound charPart phrase)
    : Follows text depth (conjunction text octetPart)
        (Scan.chain ['a', 'n', 'd'] .and charPart) :=
  follows_chain (List.cons_ne_nil _ _) follows goesOn sound

theorem isFilterSound_conjunction (sound : Scan.IsFilterSound charPart phrase)
    : Scan.IsFilterSound (Scan.chain ['a', 'n', 'd'] .and charPart)
        (Grammar.ConjunctionOf phrase) := by
  have letters : "and".toList = ['a', 'n', 'd'] := by decide
  rw [← letters]
  exact Scan.isFilterSound_chain sound fun _ _ => rfl

theorem follows_disjunction (follows : Follows text depth octetPart charPart)
    (goesOn : Scan.GoesOn charPart) (sound : Scan.IsFilterSound charPart phrase)
    : Follows text depth (disjunction text octetPart) (Scan.disjunction charPart) :=
  follows_chain (List.cons_ne_nil _ _) (follows_conjunction follows goesOn sound)
    (Scan.goesOn_chain goesOn) (isFilterSound_conjunction sound)

end Chains

-----------------------------------------------------------------------------------------
-- All levels of parentheses, and whole texts
-----------------------------------------------------------------------------------------

/-- Conditions are read alike under every number of open parentheses, by induction on how many may
still be opened.
-/
theorem follows_condition {nesting levels : Nat} (few : nesting ≤ Scan.maxNesting)
    (room : nesting < levels)
    : Follows text (Scan.maxNesting - nesting) (condition text levels)
        (Scan.condition nesting) := by
  induction nesting generalizing levels with
  | zero =>
      obtain ⟨levels, rfl⟩ := Nat.exists_eq_add_one.mpr room
      exact follows_conditionWith (follows_operand few room) (follows_arguments few room)
        (follows_noGroup (Nat.le_refl _))
  | succ nesting ih =>
      obtain ⟨levels, rfl⟩ := Nat.exists_eq_add_one.mpr (Nat.zero_lt_of_lt room)
      have inner : Follows text (Scan.maxNesting - nesting) (condition text levels)
          (Scan.condition nesting) :=
        ih (Nat.le_of_succ_le few) (Nat.lt_of_succ_lt_succ room)
      have deeper : Scan.maxNesting - nesting = Scan.maxNesting - (nesting + 1) + 1 := by omega
      rw [deeper] at inner
      exact follows_conditionWith (follows_operand few room) (follows_arguments few room)
        (follows_groupWith (follows_disjunction inner (Scan.goesOn_condition nesting)
          (Scan.isFilterSound_condition nesting)) (by omega))

theorem follows_filter : Follows text 0 (filter text) Scan.filter := by
  intro s h
  have isIn := h.skipBlanks
  rw [filter, run_bind_of_ok (run_skipBlanks h), run_bind_of_ok (run_isAtEnd isIn), Scan.filter,
    Scan.run_bind_of_ok (Scan.run_skipBlanks s), Scan.run_bind_of_ok (Scan.run_get _)]
  dsimp only
  split
  · exact .error _
  · have conditions : Follows text 0 (condition text (Scan.maxNesting + 1))
        (Scan.condition Scan.maxNesting) := by
      rw [← Nat.sub_self Scan.maxNesting]
      exact follows_condition (Nat.le_refl _) (Nat.lt_succ_self _)
    have whole := follows_disjunction conditions (Scan.goesOn_condition Scan.maxNesting)
      (Scan.isFilterSound_condition Scan.maxNesting)
    refine (whole s.skipBlanks isIn).bind fun found m _ isIn => ?_
    rw [run_bind_of_ok (run_skipBlanks isIn), run_bind_of_ok (run_isAtEnd isIn.skipBlanks),
      Scan.run_bind_of_ok (Scan.run_skipBlanks m), Scan.run_bind_of_ok (Scan.run_get _)]
    split
    · exact .ok isIn.skipBlanks found
    · rw [run_bind_of_ok (run_remaining isIn.skipBlanks), run_bind_of_ok (run_get _)]
      exact .error _

/-- The octet reader gives what the reader of characters gives, and stops where that one does. -/
theorem outcome_eq (text : List Char)
    : outcome text = ofScan 0 (Scan.filter.run ⟨text, 0, Scan.maxJoins⟩) := by
  have start : (⟨text, 0, Scan.maxJoins⟩ : Scanner).IsIn text := ⟨⟨[], rfl, rfl⟩, Nat.le_refl _⟩
  exact (follows_filter _ start).same

end RecordQuery.Reading
