import RecordQuery.Proofs.Filter.Conditions

/-! The filter reader accepts exactly the grammar: parts are chained by their keyword, groups are
read with one level less, and a whole text is a disjunction with white space around it. The joins
that a filter may have are counted while it is read, whatever groups they stand in.
-/

namespace RecordQuery.Scan

open Grammar

-----------------------------------------------------------------------------------------
-- Chains of parts, read from the left
-----------------------------------------------------------------------------------------

section Chains

variable {keyword : String} {join : Filter → Filter → Filter} {reader : Scan Filter}
  {part : Phrase Filter}

theorem run_takeKeyword_of_word (isWord : IsWord keyword) {s : Scanner} {rest : List Char}
    (h : Word keyword s.rest rest)
    : ∃ s', (takeKeyword keyword.toList).run s = .ok (true, s') ∧ s'.rest = rest
        ∧ s'.joins = s.joins := by
  obtain ⟨word, left⟩ := word_skipBlanks isWord h
  refine ⟨s.skipBlanks.advance keyword.toList.length, ?_, word ▸ left, rfl⟩
  rw [run_takeKeyword, if_pos word]

/-- What is read behind a chain goes on with it, by induction on the joins that are left. -/
theorem chain_of_chainAfter (sound : IsFilterSound reader part)
    (counts : ∀ left right, (join left right).joins = left.joins + right.joins + 1) {steps : Nat}
    {s s' : Scanner} {left filter : Filter} {text middle : List Char}
    (before : Chain keyword join part left text middle)
    (behind : afterBlanks middle = afterBlanks s.rest)
    (h : (chainAfter keyword.toList join reader steps left).run s = .ok (filter, s'))
    : ∃ rest, Chain keyword join part filter text rest ∧ afterBlanks rest = afterBlanks s'.rest
        ∧ s'.joins + filter.joins = s.joins + left.joins := by
  induction steps generalizing s left middle with
  | zero =>
      obtain ⟨taken, m, read, h⟩ := run_bind_eq_ok.mp h
      rw [run_takeKeyword] at read
      split at read
      · cases read
        simp at h
      · cases read
        cases h
        exact ⟨middle, before, by simp [behind], rfl⟩
  | succ steps ih =>
      obtain ⟨taken, m, read, h⟩ := run_bind_eq_ok.mp h
      rw [run_takeKeyword] at read
      split at read
      · next word =>
          cases read
          rw [if_pos rfl] at h
          obtain ⟨_, counted, counts', h⟩ := run_bind_eq_ok.mp h
          obtain ⟨right, last, read, h⟩ := run_bind_eq_ok.mp h
          obtain ⟨same, fewer, _⟩ := run_takeJoin_eq_ok.mp counts'
          obtain ⟨rest, spelling, left', joins⟩ := sound read
          have joined : Word keyword middle counted.rest := by
            have found := word_of_scanner s
            rw [word, String.ofList_toList] at found
            exact same ▸ ignoresBlanks_word behind.symm found
          obtain ⟨rest, whole, last, total⟩ := ih (.more before joined spelling) left' h
          refine ⟨rest, whole, last, ?_⟩
          rw [counts] at total
          simp only [Scanner.joins_advance, Scanner.joins_skipBlanks] at fewer
          omega
      · cases read
        cases h
        exact ⟨middle, before, by simp [behind], rfl⟩

/-- A chain of parts is read as one. -/
theorem isFilterSound_chain (sound : IsFilterSound reader part)
    (counts : ∀ left right, (join left right).joins = left.joins + right.joins + 1)
    : IsFilterSound (chain keyword.toList join reader) (Chain keyword join part) := by
  intro s s' filter h
  obtain ⟨first, m, read, h⟩ := run_bind_eq_ok.mp h
  rw [run_bind_of_ok (run_get m)] at h
  obtain ⟨rest, spelling, left, joins⟩ := sound read
  obtain ⟨rest, whole, last, total⟩ := chain_of_chainAfter sound counts (.one spelling) left h
  exact ⟨rest, whole, last, total.trans joins⟩

/-- A chain is read as far as it is written, by induction on it: what stands behind it is still to
be read, with as many steps as joins are left.
-/
theorem run_chain_eq (isWord : IsWord keyword) {keywords : List String}
    (complete : IsFilterComplete (keyword :: keywords) reader part)
    (counts : ∀ left right, (join left right).joins = left.joins + right.joins + 1) {s : Scanner}
    {filter : Filter} {text rest : List Char} (h : Chain keyword join part filter text rest)
    (start : s.rest = text) (follows : ContinuesWith (keyword :: keywords) rest)
    (enough : filter.joins ≤ s.joins)
    : ∃ m steps, (chain keyword.toList join reader).run s
          = (chainAfter keyword.toList join reader steps filter).run m
        ∧ m.joins ≤ steps ∧ afterBlanks m.rest = afterBlanks rest
        ∧ m.joins + filter.joins = s.joins := by
  induction h with
  | one spelling =>
      obtain ⟨m, read, left, joins⟩ := complete (start ▸ spelling) follows enough
      exact ⟨m, m.joins, by rw [chain, run_bind_of_ok read, run_bind_of_ok (run_get m)],
        Nat.le_refl _, left, joins⟩
  | @more left right text middle inner rest before joined spelling ih =>
      rw [counts] at enough
      have goesOn : ContinuesWith (keyword :: keywords) middle :=
        .inr (.inr ⟨keyword, List.mem_cons_self, inner, joined⟩)
      obtain ⟨m, steps, run, bound, behind, joins⟩ := ih start goesOn (by omega)
      -- the last join is still to be counted, so a step is left for it
      obtain ⟨steps, rfl⟩ : ∃ n, steps = n + 1 := ⟨steps - 1, by omega⟩
      obtain ⟨m', taken, left', same⟩ :=
        run_takeKeyword_of_word isWord (ignoresBlanks_word behind.symm joined)
      have counted : takeJoin.run m' = .ok ((), { m' with joins := m'.joins - 1 }) :=
        run_takeJoin_eq_ok.mpr ⟨rfl, by simp only []; omega, rfl⟩
      obtain ⟨last, read, behind', total⟩ := complete
        (s := { m' with joins := m'.joins - 1 }) (left'.symm ▸ spelling) follows
        (by simp only []; omega)
      simp only [] at total
      refine ⟨last, steps, ?_, by omega, behind', by rw [counts]; omega⟩
      rw [run, chainAfter, run_bind_of_ok taken, if_pos rfl, run_bind_of_ok counted,
        run_bind_of_ok read]

/-- A chain is read where one is written and its keyword does not follow. -/
theorem isFilterComplete_chain {keywords : List String}
    (areWords : ∀ word ∈ keyword :: keywords, IsWord word) (other : keyword ∉ keywords)
    (complete : IsFilterComplete (keyword :: keywords) reader part)
    (counts : ∀ left right, (join left right).joins = left.joins + right.joins + 1)
    : IsFilterComplete keywords (chain keyword.toList join reader)
        (Chain keyword join part) := by
  intro s filter rest h follows enough
  have isWord := areWords keyword List.mem_cons_self
  have goesOn : ContinuesWith (keyword :: keywords) rest := by
    refine follows.imp id (Or.imp id ?_)
    intro held
    obtain ⟨word, member, found⟩ := held
    exact ⟨word, List.mem_cons_of_mem keyword member, found⟩
  obtain ⟨m, steps, run, bound, behind, joins⟩ :=
    run_chain_eq isWord complete counts h rfl goesOn enough
  have stops : (takeKeyword keyword.toList).run m = .ok (false, m.skipBlanks) := by
    rw [run_takeKeyword, if_neg]
    rcases (follows.of_afterBlanks behind.symm).word
      (fun word member => areWords word (List.mem_cons_of_mem keyword member))
      with none | ⟨word, member, next⟩
    · intro same
      rw [none] at same
      exact isWord.1 (String.toList_eq_nil_iff.mp same.symm)
    · intro same
      rw [next, String.toList_inj] at same
      exact other (same ▸ member)
  refine ⟨m.skipBlanks, ?_, by simp [behind], joins⟩
  rw [run]
  cases steps with
  | zero => rw [chainAfter, run_bind_of_ok stops, if_neg (by simp), run_pure]
  | succ steps => rw [chainAfter, run_bind_of_ok stops, if_neg (by simp), run_pure]

theorem ignoresBlanks_chain (blanks : IgnoresBlanks part)
    : IgnoresBlanks (Chain keyword join part) := by
  intro filter text text' rest same h
  induction h with
  | one spelling => exact .one (blanks same spelling)
  | more before joined spelling ih => exact .more (ih same) joined spelling

end Chains

-----------------------------------------------------------------------------------------
-- Filters at all levels of parentheses, and whole texts
-----------------------------------------------------------------------------------------

/-- A disjunction is a chain of chains, by the letters of the keywords. -/
theorem disjunction_eq (condition : Scan Filter)
    : disjunction condition = chain "or".toList .or (chain "and".toList .and condition) := by
  have or_letters : "or".toList = ['o', 'r'] := by decide
  have and_letters : "and".toList = ['a', 'n', 'd'] := by decide
  rw [or_letters, and_letters, disjunction]

theorem isFilterSound_disjunction {reader : Scan Filter} {condition : Phrase Filter}
    (sound : IsFilterSound reader condition)
    : IsFilterSound (disjunction reader) (DisjunctionOf condition) := by
  rw [disjunction_eq]
  exact isFilterSound_chain (isFilterSound_chain sound (fun _ _ => rfl)) (fun _ _ => rfl)

theorem isFilterComplete_disjunction {reader : Scan Filter} {condition : Phrase Filter}
    (complete : IsFilterComplete ["and", "or"] reader condition)
    : IsFilterComplete [] (disjunction reader) (DisjunctionOf condition) := by
  rw [disjunction_eq]
  have areWords : ∀ word ∈ ["or"], IsWord word :=
    fun _ member => isWord_of_joins (List.mem_cons_of_mem _ member)
  refine isFilterComplete_chain areWords (by decide) ?_ (fun _ _ => rfl)
  exact isFilterComplete_chain (fun _ => isWord_of_joins) (by decide) complete (fun _ _ => rfl)

/-- The conditions that are read are spelled, by induction on the levels that are left. -/
theorem isFilterSound_condition (nesting : Nat)
    : IsFilterSound (condition nesting) (SpellsCondition nesting) := by
  have sound := isSound_arguments
  have blanks := ignoresBlanks_arguments
  induction nesting with
  | zero =>
      rw [condition, operand_eq]
      refine isSound_conditionWith (sound 0) (blanks 0) ?_
      intro s s' filter h
      simp at h
  | succ nesting ih =>
      rw [condition, operand_eq]
      exact isSound_conditionWith (sound _) (blanks _) (isFilterSound_disjunction ih)

/-- Conditions are read where they are written, by induction on the levels that are left. -/
theorem isFilterComplete_condition (nesting : Nat)
    : IsFilterComplete ["and", "or"] (condition nesting) (SpellsCondition nesting) := by
  have complete := isComplete_arguments
  have blanks := ignoresBlanks_arguments
  have opens := opens_arguments
  induction nesting with
  | zero =>
      rw [condition, operand_eq]
      refine isComplete_conditionWith (complete 0) (blanks 0) (opens 0) ?_
      exact fun _ _ _ spelled => absurd spelled id
  | succ nesting ih =>
      rw [condition, operand_eq]
      exact isComplete_conditionWith (complete _) (blanks _) (opens _)
        (isFilterComplete_disjunction ih)

theorem ignoresBlanks_condition (nesting : Nat) : IgnoresBlanks (SpellsCondition nesting) := by
  intro filter text text' rest same h
  cases nesting with
  | zero => exact ignoresBlanks_conditionWith same h
  | succ nesting => exact ignoresBlanks_conditionWith same h

theorem ignoresBlanks_disjunction (nesting : Nat)
    : IgnoresBlanks (DisjunctionOf (SpellsCondition nesting)) :=
  ignoresBlanks_chain (ignoresBlanks_chain (ignoresBlanks_condition nesting))

theorem afterBlanks_ne_nil_of_condition {nesting : Nat} {filter : Filter} {text rest : List Char}
    (h : SpellsCondition nesting filter text rest)
    : afterBlanks text ≠ [] := by
  have word {name : String} {inner : List Char} (isWord : IsWord name)
      (spelling : Word name text inner) : afterBlanks text ≠ [] := by
    obtain ⟨c, head, _⟩ := exists_head_of_isWord isWord
    obtain ⟨tail, chars⟩ := List.head?_eq_some_iff.mp head
    simp [spelling.1, chars]
  cases h with
  | group opening =>
      intro nothing
      simp [Mark, nothing] at opening
  | test test name => exact word test.isWord_name name
  | agreement test name => exact word test.isWord_name name
  | comparison operator first =>
      intro nothing
      obtain ⟨c, head, _⟩ := exists_head_of_operandWith first
      simp [nothing] at head

theorem afterBlanks_ne_nil_of_chain {keyword : String} {join : Filter → Filter → Filter}
    {part : Phrase Filter} (nonempty : ∀ ⦃filter text rest⦄, part filter text rest
      → afterBlanks text ≠ []) {filter : Filter} {text rest : List Char}
    (h : Chain keyword join part filter text rest)
    : afterBlanks text ≠ [] := by
  induction h with
  | one spelling => exact nonempty spelling
  | more before joined spelling ih => exact ih

/-- A whole text is read if it spells a filter with no more joins than are left. -/
theorem run_filter_eq_ok {s : Scanner} {filter : Filter}
    : (∃ s', Scan.filter.run s = .ok (filter, s'))
      ↔ Spells maxNesting filter s.rest ∧ filter.joins ≤ s.joins := by
  constructor
  · intro held
    obtain ⟨s', h⟩ := held
    rw [Scan.filter, run_bind_of_ok (run_skipBlanks s), run_bind_of_ok (run_get _)] at h
    obtain ⟨_, h⟩ := run_unless_eq_ok.mp h
    obtain ⟨found, m, read, h⟩ := run_bind_eq_ok.mp h
    obtain ⟨rest, spelled, left, joins⟩ :=
      isFilterSound_disjunction (isFilterSound_condition maxNesting) read
    rw [run_bind_of_ok (run_skipBlanks m), run_bind_of_ok (run_get _)] at h
    split at h
    · next nothing =>
        cases h
        have blank : afterBlanks s.skipBlanks.rest = afterBlanks s.rest := by simp
        refine ⟨⟨rest, ignoresBlanks_disjunction _ blank spelled, left.trans ?_⟩, ?_⟩
        · simpa using nothing
        · rw [Scanner.joins_skipBlanks] at joins
          omega
    · simp at h
  · intro held
    obtain ⟨⟨rest, spelled, nothing⟩, enough⟩ := held
    have blank : afterBlanks s.rest = afterBlanks s.skipBlanks.rest := by simp
    have start : s.skipBlanks.rest ≠ [] := by
      rw [Scanner.rest_skipBlanks]
      exact afterBlanks_ne_nil_of_chain (fun _ _ _ => afterBlanks_ne_nil_of_chain
        (fun _ _ _ => afterBlanks_ne_nil_of_condition)) spelled
    obtain ⟨m, read, left, joins⟩ :=
      isFilterComplete_disjunction (isFilterComplete_condition maxNesting)
        (ignoresBlanks_disjunction _ blank spelled) (.inl nothing) enough
    refine ⟨m.skipBlanks, ?_⟩
    rw [Scan.filter, run_bind_of_ok (run_skipBlanks s), run_bind_of_ok (run_get _),
      run_unless_eq_ok]
    refine ⟨by simpa using start, ?_⟩
    rw [run_bind_of_ok read, run_bind_of_ok (run_skipBlanks m), run_bind_of_ok (run_get _), if_pos,
      run_pure]
    simp [left, nothing]

end RecordQuery.Scan

namespace RecordQuery

/-- A filter is what the reader takes from a whole text, started with all joins left. -/
theorem Filter.parse_eq_ok_iff_run {text : String} {filter : Filter}
    : Filter.parse text = .ok filter
      ↔ ∃ s', Scan.filter.run ⟨text.toList, 0, Scan.maxJoins⟩ = .ok (filter, s') := by
  rw [Filter.parse]
  cases Scan.filter.run ⟨text.toList, 0, Scan.maxJoins⟩ with
  | error error => simp [Except.map]
  | ok result => simp [Except.map, Prod.ext_iff]

/-- The reader accepts exactly its grammar: a text gives a filter where it spells that filter with
at most 64 levels of parentheses and at most 1024 conjunctions and disjunctions.
-/
theorem Filter.parse_eq_ok_iff (text : String) (filter : Filter)
    : Filter.parse text = .ok filter
      ↔ Grammar.Spells 64 filter text.toList ∧ filter.joins ≤ 1024 :=
  parse_eq_ok_iff_run.trans Scan.run_filter_eq_ok

end RecordQuery
