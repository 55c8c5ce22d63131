import RecordQuery.Proofs.Filter.Parsing
import RecordQuery.Proofs.Filter.PrintedOperands
import RecordQuery.Proofs.Filter.Reassociation

/-! Filters are read back from their texts, up to association. A side of a conjunction takes
a level of parentheses where it is a disjunction, and nothing else does, so the text needs no more
levels than the text that the filter was read from.
-/

namespace RecordQuery

open Grammar

-----------------------------------------------------------------------------------------
-- Filters that some text spells
-----------------------------------------------------------------------------------------

/-- The levels of parentheses that a side of a conjunction takes for itself. -/
def Filter.sideLevels (filter : Filter) : Nat :=
  if filter.isDisjunction then 1 else 0

/-- The filters whose texts have at most some levels of parentheses. -/
inductive Filter.IsWritable : Nat → Filter → Prop where
  | comparison {nesting : Nat} {left right : Operand} (operator : Comparison)
      (first : left.IsWritable nesting) (second : right.IsWritable nesting)
      : IsWritable nesting (.comparison operator left right)
  | stringTest {nesting : Nat} {first second : Operand} (test : StringTest)
      (before : first.IsWritable nesting) (after : second.IsWritable nesting)
      : IsWritable (nesting + 1) (.stringTest test first second)
  | and {nesting m n : Nat} {left right : Filter} (before : IsWritable m left)
      (fits : m + left.sideLevels ≤ nesting) (after : IsWritable n right)
      (fits' : n + right.sideLevels ≤ nesting)
      : IsWritable nesting (.and left right)
  | or {nesting : Nat} {left right : Filter} (before : IsWritable nesting left)
      (after : IsWritable nesting right)
      : IsWritable nesting (.or left right)

/-- A side of a conjunction whose text has at most some levels of parentheses, with its own. -/
def Filter.IsSide (nesting : Nat) (filter : Filter) : Prop :=
  ∃ m, filter.IsWritable m ∧ m + filter.sideLevels ≤ nesting

theorem Filter.IsWritable.mono {m n : Nat} {filter : Filter} (h : filter.IsWritable m) (le : m ≤ n)
    : filter.IsWritable n := by
  induction h generalizing n with
  | comparison operator first second => exact .comparison operator (first.mono le) (second.mono le)
  | stringTest test before after =>
      obtain ⟨n, rfl⟩ : ∃ k, n = k + 1 := ⟨n - 1, by omega⟩
      exact .stringTest test (before.mono (by omega)) (after.mono (by omega))
  | and before fits after fits' =>
      exact .and before (Nat.le_trans fits le) after (Nat.le_trans fits' le)
  | or _ _ before after => exact .or (before le) (after le)

namespace Grammar

/-- A chain of conditions that are sides of conjunctions is such a side, by induction on it. -/
theorem isSide_of_conjunction {nesting : Nat} {condition : Phrase Filter}
    (sides : ∀ ⦃filter text rest⦄, condition filter text rest → filter.IsSide nesting)
    {filter : Filter} {text rest : List Char} (h : ConjunctionOf condition filter text rest)
    : filter.IsSide nesting := by
  induction h with
  | one spelling => exact sides spelling
  | more _ _ spelling ih =>
      obtain ⟨m, before, fits⟩ := ih
      obtain ⟨n, after, fits'⟩ := sides spelling
      exact ⟨nesting, .and before fits after fits', Nat.le_refl _⟩

/-- A chain of such chains is writable, by induction on it. -/
theorem isWritable_of_disjunction {nesting : Nat} {condition : Phrase Filter}
    (sides : ∀ ⦃filter text rest⦄, condition filter text rest → filter.IsSide nesting)
    {filter : Filter} {text rest : List Char} (h : DisjunctionOf condition filter text rest)
    : filter.IsWritable nesting := by
  have part {filter : Filter} {text rest : List Char}
      (spelling : ConjunctionOf condition filter text rest) : filter.IsWritable nesting := by
    obtain ⟨m, writable, fits⟩ := isSide_of_conjunction sides spelling
    exact writable.mono (by omega)
  induction h with
  | one spelling => exact part spelling
  | more _ _ spelling ih => exact .or ih (part spelling)

/-- A test with its arguments takes the level of their parentheses. -/
theorem isSide_of_arguments {nesting : Nat} {first second : Operand} {text rest : List Char}
    (test : StringTest) (h : SpellsArguments nesting [first, second] text rest)
    : (Filter.stringTest test first second).IsSide nesting := by
  cases nesting with
  | zero => exact absurd h id
  | succ nesting =>
      cases h with
      | parentheses opening list =>
          have spelled := list.exists_spelling
          obtain ⟨_, _, before⟩ := spelled first (by simp)
          obtain ⟨_, _, after⟩ := spelled second (by simp)
          exact ⟨nesting + 1, .stringTest test (isWritable_of_spellsOperand before)
            (isWritable_of_spellsOperand after), Nat.le_refl _⟩

/-- A condition is a side of a conjunction, if what stands in its parentheses is one. -/
theorem isSide_of_conditionWith {nesting : Nat} {group : Phrase Filter}
    (inside : ∀ ⦃filter text rest⦄, group filter text rest → filter.IsSide nesting)
    {filter : Filter} {text rest : List Char}
    (h : ConditionWith (SpellsOperand nesting) (SpellsArguments nesting) group filter text rest)
    : filter.IsSide nesting := by
  cases h with
  | group _ filling => exact inside filling
  | test test _ pair => exact isSide_of_arguments test pair
  | agreement test _ pair => exact isSide_of_arguments test pair
  | comparison operator first _ second =>
      exact ⟨nesting, .comparison operator (isWritable_of_spellsOperand first)
        (isWritable_of_spellsOperand second), Nat.le_refl _⟩

/-- A spelled condition is a side of a conjunction, by induction on the levels that are left. -/
theorem isSide_of_condition {nesting : Nat} {filter : Filter} {text rest : List Char}
    (h : SpellsCondition nesting filter text rest)
    : filter.IsSide nesting := by
  induction nesting generalizing filter text rest with
  | zero => exact isSide_of_conditionWith (fun _ _ _ filling => absurd filling id) h
  | succ nesting ih =>
      refine isSide_of_conditionWith (fun inner _ _ filling => ?_) h
      have writable := isWritable_of_disjunction (fun _ _ _ spelling => ih spelling) filling
      refine ⟨nesting, writable, Nat.add_le_add_left ?_ nesting⟩
      unfold Filter.sideLevels
      split <;> decide

-----------------------------------------------------------------------------------------
-- Texts of filters
-----------------------------------------------------------------------------------------

/-- The parts of a chain that are not chains of the same connective themselves. -/
def Unjoined (connective : Connective) (part : Phrase Filter) : Phrase Filter :=
  fun filter text rest => part filter text rest ∧ ¬ connective.Joins filter

/-- Two chains with the keyword between them are one chain, by induction on the second. -/
theorem Chain.append {keyword : String} {connective : Connective} {part : Phrase Filter}
    {left right : Filter} {text middle inner rest : List Char}
    (before : Chain keyword connective.join (Unjoined connective part) left text middle)
    (joined : Word keyword middle inner)
    (after : Chain keyword connective.join (Unjoined connective part) right inner rest)
    : Chain keyword connective.join (Unjoined connective part) (connective.append left right) text
        rest := by
  induction after with
  | one spelling =>
      rw [Connective.append_of_not_joins spelling.2]
      exact .more before joined spelling
  | more _ again spelling ih =>
      rw [Connective.append_join]
      exact .more (ih joined) again spelling

theorem Chain.mono {keyword : String} {join : Filter → Filter → Filter} {part part' : Phrase Filter}
    (le : ∀ ⦃filter text rest⦄, part filter text rest → part' filter text rest) {filter : Filter}
    {text rest : List Char} (h : Chain keyword join part filter text rest)
    : Chain keyword join part' filter text rest := by
  induction h with
  | one spelling => exact .one (le spelling)
  | more _ joined spelling ih => exact .more ih joined (le spelling)

theorem ignoresBlanks_unjoined {connective : Connective} {part : Phrase Filter}
    (blanks : Scan.IgnoresBlanks part)
    : Scan.IgnoresBlanks (Unjoined connective part) := by
  intro filter text text' rest same h
  exact ⟨blanks same h.1, h.2⟩

/-- Chains of conditions that are not conjunctions themselves. -/
def Conjunctions (nesting : Nat) : Phrase Filter :=
  Chain "and" Connective.and.join (Unjoined .and (SpellsCondition nesting))

/-- Chains of conjunctions that are not disjunctions themselves. -/
def Disjunctions (nesting : Nat) : Phrase Filter :=
  Chain "or" Connective.or.join (Unjoined .or (Conjunctions nesting))

theorem ignoresBlanks_conjunctions (nesting : Nat) : Scan.IgnoresBlanks (Conjunctions nesting) :=
  Scan.ignoresBlanks_chain (ignoresBlanks_unjoined (Scan.ignoresBlanks_condition nesting))

theorem ignoresBlanks_disjunctions (nesting : Nat) : Scan.IgnoresBlanks (Disjunctions nesting) :=
  Scan.ignoresBlanks_chain (ignoresBlanks_unjoined (ignoresBlanks_conjunctions nesting))

/-- Such chains are spelled by the grammar. -/
theorem Disjunctions.spells {nesting : Nat} {filter : Filter} {text rest : List Char}
    (h : Disjunctions nesting filter text rest)
    : DisjunctionOf (SpellsCondition nesting) filter text rest :=
  Chain.mono (fun _ _ _ part => Chain.mono (fun _ _ _ condition => condition.1) part.1) h

/-- A keyword between two spaces is a whole word. -/
theorem word_between {keyword : String} (isWord : IsWord keyword) (rest : List Char)
    : Word keyword (' ' :: (keyword.toList ++ ' ' :: rest)) (' ' :: rest) :=
  Scan.ignoresBlanks_word (afterBlanks_space _).symm
    (word_append isWord (Text.stops_cons (by decide) rest))

/-- A printed filter is spelled in front of a separator. -/
def IsSpelled (filter : Filter) : Prop :=
  ∀ nesting, filter.IsWritable nesting → ∀ rest, Separated rest
    → Disjunctions nesting filter.leftNested (filter.chars ++ rest) rest
      ∧ (filter.isDisjunction = false
        → Conjunctions nesting filter.leftNested (filter.chars ++ rest) rest)

/-- A single condition is spelled if its text spells it. -/
theorem isSpelled_of_condition {filter : Filter} (single : filter.leftNested = filter)
    (noAnd : ¬ Connective.and.Joins filter) (noOr : ¬ Connective.or.Joins filter)
    (spelled : ∀ nesting, filter.IsWritable nesting → ∀ rest, Separated rest
      → SpellsCondition nesting filter (filter.chars ++ rest) rest)
    : IsSpelled filter := by
  intro nesting writable rest separated
  have conjunction : Conjunctions nesting filter (filter.chars ++ rest) rest :=
    .one ⟨spelled nesting writable rest separated, noAnd⟩
  rw [single]
  exact ⟨.one ⟨conjunction, noOr⟩, fun _ => conjunction⟩

/-- A comparison is spelled by its operands with the operator between them. -/
theorem spellsCondition_of_operands {nesting : Nat} {left right : Operand} {before after : List Char}
    (operator : Comparison)
    (first : ∀ rest, Separated rest → SpellsOperand nesting left (before ++ rest) rest)
    {rest : List Char} (second : SpellsOperand nesting right (after ++ rest) rest)
    : SpellsCondition nesting (.comparison operator left right)
        (before ++ ' ' :: (operator.name.toList ++ ' ' :: (after ++ rest))) rest := by
  have start := first (' ' :: (operator.name.toList ++ ' ' :: (after ++ rest)))
    (separated_cons (.inl rfl) _)
  have symbol := word_between operator.isWord_name (after ++ rest)
  have behind := Scan.ignoresBlanks_operandWith _ (afterBlanks_space _).symm second
  cases nesting with
  | zero => exact .comparison operator start symbol behind
  | succ nesting => exact .comparison operator start symbol behind

theorem spellsCondition_comparison {nesting : Nat} {left right : Operand} (operator : Comparison)
    (first : left.IsWritable nesting) (second : right.IsWritable nesting) {rest : List Char}
    (separated : Separated rest)
    : SpellsCondition nesting (.comparison operator left right)
        ((Filter.comparison operator left right).chars ++ rest) rest := by
  have spelled := spellsCondition_of_operands operator (spellsOperand_chars first)
    (spellsOperand_chars second rest separated)
  simpa [Filter.chars] using spelled

theorem spellsCondition_stringTest {nesting : Nat} {first second : Operand} (test : StringTest)
    (before : first.IsWritable nesting) (after : second.IsWritable nesting) (rest : List Char)
    : SpellsCondition (nesting + 1) (.stringTest test first second)
        ((Filter.stringTest test first second).chars ++ rest) rest := by
  have spelling : ∀ operand ∈ [first, second], ∀ rest, Separated rest
      → SpellsOperand nesting operand (operand.chars ++ rest) rest := by
    intro operand member
    rcases List.mem_cons.mp member with rfl | member
    · exact spellsOperand_chars before
    · rw [List.mem_singleton.mp member]
      exact spellsOperand_chars after
  refine .test test ?_ (spellsArguments_parentheses (by simp) spelling rest)
  rw [Filter.chars, Text.call, List.append_assoc, List.append_assoc]
  exact word_append test.isWord_name (Text.stops_cons (by decide) _)

/-- A disjunction in parentheses is a condition. -/
theorem spellsCondition_group {nesting : Nat} {filter : Filter} (spelled : IsSpelled filter)
    (writable : filter.IsWritable nesting) (rest : List Char)
    : SpellsCondition (nesting + 1) filter.leftNested
        ('(' :: filter.chars ++ [')'] ++ rest) rest := by
  have filling := (spelled nesting writable (')' :: rest) (separated_cons (.inr (.inr rfl)) rest)).1
  refine .group (afterBlanks_cons (by decide) (filter.chars ++ [')'] ++ rest)) ?_
    (afterBlanks_cons (by decide) rest)
  rw [List.append_assoc]
  exact filling.spells

end Grammar

namespace Connective

/-- A chain that another one is appended to is a join. -/
theorem joins_append (connective : Connective) (left right : Filter)
    : connective.Joins (connective.append left right) := by
  induction right using chainInduction connective with
  | join first last ih => exact ⟨_, _, append_join connective left first last⟩
  | other right single => exact ⟨_, _, append_of_not_joins single left⟩

theorem not_joins_or {filter : Filter} (h : Connective.and.Joins filter)
    : ¬ Connective.or.Joins filter := by
  obtain ⟨left, right, rfl⟩ := h
  intro held
  obtain ⟨_, _, same⟩ := held
  cases same

end Connective

namespace Grammar

/-- A side of a conjunction is spelled by its text, in parentheses if it is a disjunction. -/
theorem conjunctions_grouped {nesting : Nat} {filter : Filter} (spelled : IsSpelled filter)
    (side : filter.IsSide nesting) {rest : List Char} (separated : Separated rest)
    : Conjunctions nesting filter.leftNested
        (Text.grouped filter.isDisjunction filter.chars ++ rest) rest := by
  obtain ⟨m, writable, fits⟩ := side
  cases disjunction : filter.isDisjunction with
  | false =>
      exact (spelled nesting (writable.mono (by omega)) rest separated).2 disjunction
  | true =>
      -- the parentheses around the side are the level that it takes for itself
      obtain ⟨n, rfl⟩ : ∃ n, nesting = n + 1 := by
        simp only [Filter.sideLevels, disjunction, ↓reduceIte] at fits
        exact ⟨nesting - 1, by omega⟩
      have fits' : m ≤ n := by
        simp only [Filter.sideLevels, disjunction, ↓reduceIte] at fits
        omega
      refine .one ⟨spellsCondition_group spelled (writable.mono fits') rest, fun joins => ?_⟩
      cases filter with
      | or left right => exact Connective.not_joins_or joins (Connective.joins_append .or _ _)
      | comparison | stringTest | and => cases disjunction

/-- Every filter is spelled by its text, by induction on it: the text of a join is a chain with the
chains of its sides in it.
-/
theorem isSpelled (filter : Filter) : IsSpelled filter := by
  have noJoin {connective : Connective} {filter : Filter} (single : ∀ left right,
      filter ≠ connective.join left right) : ¬ connective.Joins filter := by
    intro held
    obtain ⟨left, right, same⟩ := held
    exact single left right same
  induction filter with
  | comparison operator left right =>
      refine isSpelled_of_condition rfl (noJoin (fun _ _ h => by cases h))
        (noJoin (fun _ _ h => by cases h)) ?_
      intro nesting writable rest separated
      cases writable with
      | comparison _ first second =>
          exact spellsCondition_comparison operator first second separated
  | stringTest test first second =>
      refine isSpelled_of_condition rfl (noJoin (fun _ _ h => by cases h))
        (noJoin (fun _ _ h => by cases h)) ?_
      intro nesting writable rest separated
      cases writable with
      | stringTest _ before after => exact spellsCondition_stringTest test before after rest
  | and left right before after =>
      intro nesting writable rest separated
      cases writable with
      | and first fits second fits' =>
          have last := conjunctions_grouped after ⟨_, second, fits'⟩ separated
          have behind := ignoresBlanks_conjunctions nesting (afterBlanks_space _).symm last
          have start := conjunctions_grouped before ⟨_, first, fits⟩ (separated_cons (.inl rfl)
            ("and".toList ++ ' ' :: (Text.grouped right.isDisjunction right.chars ++ rest)))
          have chain := Chain.append start (word_between (isWord_of_joins (by decide)) _) behind
          have split : (Filter.and left right).chars ++ rest
              = Text.grouped left.isDisjunction left.chars ++ ' ' :: ("and".toList ++ ' ' ::
                (Text.grouped right.isDisjunction right.chars ++ rest)) := by
            simp [Filter.chars, show "and".toList = ['a', 'n', 'd'] by decide]
          rw [split]
          refine ⟨.one ⟨chain, Connective.not_joins_or (Connective.joins_append .and _ _)⟩,
            fun _ => chain⟩
  | or left right before after =>
      intro nesting writable rest separated
      cases writable with
      | or first second =>
          have last := (after nesting second rest separated).1
          have behind := ignoresBlanks_disjunctions nesting (afterBlanks_space _).symm last
          have start := (before nesting first (' ' ::
            ("or".toList ++ ' ' :: (right.chars ++ rest))) (separated_cons (.inl rfl) _)).1
          have chain := Chain.append start (word_between (isWord_of_joins (by decide)) _) behind
          have split : (Filter.or left right).chars ++ rest
              = left.chars ++ ' ' :: ("or".toList ++ ' ' :: (right.chars ++ rest)) := by
            simp [Filter.chars, show "or".toList = ['o', 'r'] by decide]
          rw [split]
          exact ⟨chain, fun single => by cases single⟩

end Grammar

namespace Filter

/-- The text of a writable filter with few enough joins is read as the filter with its chains folded
to the left.
-/
theorem parse_render_of_isWritable {filter : Filter} (writable : filter.IsWritable 64)
    (joins : filter.joins ≤ 1024)
    : parse filter.render = .ok filter.leftNested := by
  rw [parse_eq_ok_iff_run, Scan.run_filter_eq_ok, render, String.toList_ofList,
    ← (reassociation_leftNested filter).joins_eq]
  have spelled := (Grammar.isSpelled filter 64 writable [] (fun _ none => by cases none)).1
  rw [List.append_nil] at spelled
  exact ⟨⟨[], spelled.spells, rfl⟩, joins⟩

/-- A filter that was read is read again from its text, as the only filter that differs from it in
the association of its chains alone and has them all folded to the left. It is the same filter
exactly where they were folded so before, and accepts the same records and fails alike on any.
-/
theorem parse_render (text : String) (filter : Filter) (h : parse text = .ok filter)
    : parse filter.render = .ok filter.leftNested
      ∧ Reassociation filter filter.leftNested ∧ filter.leftNested.IsLeftNested
      ∧ (∀ other, Reassociation filter other → other.IsLeftNested → other = filter.leftNested)
      ∧ (filter.leftNested = filter ↔ filter.IsLeftNested)
      ∧ ∀ record, filter.leftNested.accepts record = filter.accepts record := by
  obtain ⟨⟨rest, spelled, _⟩, joins⟩ := Scan.run_filter_eq_ok.mp (parse_eq_ok_iff_run.mp h)
  have writable := Grammar.isWritable_of_disjunction
    (fun _ _ _ condition => Grammar.isSide_of_condition condition) spelled
  have same := reassociation_leftNested filter
  exact ⟨parse_render_of_isWritable writable joins, same, isLeftNested_leftNested filter,
    fun _ other nested => other.eq_leftNested nested, leftNested_eq_self_iff,
    fun record => (same.accepts_eq record).symm⟩

/-- A conjunction whose right side is one too, with a quote, a double and a disjunction in it. -/
theorem parse_render_nested_conjunction
    : ∃ filter,
        parse "name eq 'it''s' and (size lt 1e23 and (a eq null or b/c ne -2.50))" = .ok filter
        ∧ parse filter.render = .ok filter.leftNested
        ∧ Reassociation filter filter.leftNested ∧ filter.leftNested.IsLeftNested
        ∧ (∀ other, Reassociation filter other → other.IsLeftNested → other = filter.leftNested)
        ∧ (filter.leftNested = filter ↔ filter.IsLeftNested)
        ∧ ∀ record, filter.leftNested.accepts record = filter.accepts record := by
  have accepted : (parse "name eq 'it''s' and (size lt 1e23 and (a eq null or b/c ne -2.50))"
      ).toOption.isSome = true := by
    decide +kernel
  cases read : parse "name eq 'it''s' and (size lt 1e23 and (a eq null or b/c ne -2.50))" with
  | error error => simp [read, Except.toOption] at accepted
  | ok filter => exact ⟨filter, rfl, parse_render _ filter read⟩

end Filter

end RecordQuery
