import RecordQuery.Proofs.Filter.CursorSafety
import RecordQuery.Proofs.Filter.RoundTrip

/-! The accounts of the filter reader. Each reader closes the parentheses that it opens and counts
the joins of what it gives, and none goes deeper than the parentheses that may be open. So a filter
that is read has at most 1024 joins, its calls are nested to at most 64 levels, and its text keeps
to both limits.
-/

namespace RecordQuery

-----------------------------------------------------------------------------------------
-- Calls inside one another
-----------------------------------------------------------------------------------------

/-- How many calls of an operand are inside one another. -/
def Operand.callDepth : Operand → Nat
  | .property _ | .literal _ => 0
  | .unary _ argument => argument.callDepth + 1
  | .binary _ first second => max first.callDepth second.callDepth + 1
  | .ternary _ first second third =>
    max first.callDepth (max second.callDepth third.callDepth) + 1

/-- How many calls of a filter are inside one another; a string test is a call. -/
def Filter.callDepth : Filter → Nat
  | .comparison _ left right => max left.callDepth right.callDepth
  | .stringTest _ first second => max first.callDepth second.callDepth + 1
  | .and left right | .or left right => max left.callDepth right.callDepth

/-- A call takes a level more than its arguments. -/
theorem Operand.callDepth_le_of_call? {function : Function} {operands : List Operand}
    {called : Operand} {nesting : Nat} (arity : Operand.call? function operands = some called)
    (arguments : ∀ operand ∈ operands, operand.callDepth ≤ nesting)
    : called.callDepth ≤ nesting + 1 := by
  unfold Operand.call? at arity
  split at arity
  · cases arity
    exact Nat.succ_le_succ (arguments _ (by simp))
  · next first second =>
      cases arity
      have before := arguments first (by simp)
      have after := arguments second (by simp)
      rw [callDepth]
      omega
  · next first second third =>
      cases arity
      have before := arguments first (by simp)
      have between := arguments second (by simp)
      have after := arguments third (by simp)
      rw [callDepth]
      omega
  · cases arity

theorem Operand.IsWritable.callDepth_le {nesting : Nat} {operand : Operand}
    (h : operand.IsWritable nesting)
    : operand.callDepth ≤ nesting := by
  induction h with
  | property => exact Nat.zero_le _
  | literal => exact Nat.zero_le _
  | call function arity _ ih => exact Operand.callDepth_le_of_call? arity ih

/-- Each call in a filter stands in parentheses of its own in the filter's text. -/
theorem Filter.IsWritable.callDepth_le {nesting : Nat} {filter : Filter}
    (h : filter.IsWritable nesting)
    : filter.callDepth ≤ nesting := by
  induction h with
  | comparison operator first second =>
      exact Nat.max_le.mpr ⟨first.callDepth_le, second.callDepth_le⟩
  | stringTest test before after =>
      exact Nat.succ_le_succ (Nat.max_le.mpr ⟨before.callDepth_le, after.callDepth_le⟩)
  | and _ fits _ fits' before after =>
      rw [Filter.callDepth]
      omega
  | or _ _ before after => exact Nat.max_le.mpr ⟨before, after⟩

theorem Connective.callDepth_join (connective : Connective) (left right : Filter)
    : (connective.join left right).callDepth = max left.callDepth right.callDepth := by
  cases connective <;> rfl

theorem Filter.Reassociation.callDepth_eq {filter other : Filter} (h : Reassociation filter other)
    : filter.callDepth = other.callDepth := by
  induction h with
  | refl => rfl
  | symm _ ih => exact ih.symm
  | trans _ _ first second => exact first.trans second
  | assoc connective first second third =>
      simp only [Connective.callDepth_join, Nat.max_assoc]
  | congr connective _ _ first second =>
      rw [Connective.callDepth_join, Connective.callDepth_join, first, second]

-----------------------------------------------------------------------------------------
-- What each reader counts
-----------------------------------------------------------------------------------------

namespace Reading

variable {α : Type} {text : List Char}

/-- Where a reader succeeds, as many parentheses are open as before and the joins of the result have
been counted. Where it does not, it has neither closed a parenthesis too many nor gone deeper than
there may be parentheses open.
-/
def KeepsAccounts (text : List Char) (starts : Cursor → Prop) (joins : α → Nat)
    (p : Nat → Reading α)
    : Prop :=
  ∀ (c : Cursor) (levels : Nat), c.IsSound text → starts c → Scan.maxNesting < c.depth + levels
    → match (p levels).run c with
      | .ok (a, c') => c'.depth = c.depth ∧ c'.joins = c.joins + joins a
      | .error stop => stop ≠ .fault .depth ∧ stop ≠ .fault .recursion

theorem IsFollowed.keepsAccounts {starts : Cursor → Prop} {joins : α → Nat} {p : Nat → Reading α}
    (h : IsFollowed text starts joins p)
    : KeepsAccounts text starts joins p := by
  obtain ⟨q, agree, _, takes⟩ := h
  intro c levels sound starts room
  obtain ⟨s, isIn, same⟩ := exists_scanner sound
  have few := sound.depth
  rw [← same] at starts
  have agree := agree (Scan.maxNesting - c.depth) levels s (Nat.sub_le ..) (by omega) isIn
  rw [Nat.sub_sub_self few] at agree
  have agree := agree starts
  rw [← same, agree.same]
  cases outcome : (q (Scan.maxNesting - c.depth)).run s with
  | error error => exact ⟨Stop.noConfusion, Stop.noConfusion⟩
  | ok result =>
      obtain ⟨a, s'⟩ := result
      have taken := takes _ outcome
      have bound := isIn.joins
      refine ⟨rfl, ?_⟩
      simp only [Scanner.cursor]
      omega

theorem takes_filter : Takes Filter.joins Scan.filter := by
  intro s s' found h
  rw [Scan.filter, Scan.run_bind_of_ok (Scan.run_skipBlanks s),
    Scan.run_bind_of_ok (Scan.run_get _)] at h
  obtain ⟨_, h⟩ := Scan.run_unless_eq_ok.mp h
  obtain ⟨filter, m, read, h⟩ := Scan.run_bind_eq_ok.mp h
  have taken := takes_of_isFilterSound (Scan.isFilterSound_disjunction
    (Scan.isFilterSound_condition Scan.maxNesting)) read
  rw [Scan.run_bind_of_ok (Scan.run_skipBlanks m), Scan.run_bind_of_ok (Scan.run_get _)] at h
  split at h
  · cases h
    exact taken
  · cases h

end Reading

-----------------------------------------------------------------------------------------
-- What is read keeps to the limits
-----------------------------------------------------------------------------------------

namespace Filter

/-- Behind a filter no parenthesis is open, and its joins have been counted. -/
theorem outcome_of_parse {text : String} {filter : Filter} (h : parse text = .ok filter)
    : ∃ position, Reading.outcome text.toList = .ok (filter, ⟨position, 0, filter.joins⟩) := by
  obtain ⟨s', read⟩ := parse_eq_ok_iff_run.mp h
  have taken : s'.joins + filter.joins = Scan.maxJoins := Reading.takes_filter read
  have counted : Scan.maxJoins - s'.joins = filter.joins := by omega
  refine ⟨s'.position, ?_⟩
  rw [Reading.outcome_eq, read, Reading.ofScan, Scanner.cursor, counted]

theorem isWritable_of_parse {text : String} {filter : Filter} (h : parse text = .ok filter)
    : filter.IsWritable 64 ∧ filter.joins ≤ 1024 := by
  obtain ⟨⟨rest, spelled, _⟩, joins⟩ := Scan.run_filter_eq_ok.mp (parse_eq_ok_iff_run.mp h)
  exact ⟨Grammar.isWritable_of_disjunction
    (fun _ _ _ condition => Grammar.isSide_of_condition condition) spelled, joins⟩

/-- Every reader keeps its accounts, on every text. A filter that is read has at most 1024 joins,
which are those that were counted, and at most 64 calls inside one another; its text is read again
with the same joins counted, as a filter with as many of both.
-/
theorem parse_keepsAccounts (text : String)
    : Reading.EachReader text.toList (Reading.KeepsAccounts text.toList)
      ∧ ∀ filter, parse text = .ok filter
        → (∃ position, Reading.outcome text.toList = .ok (filter, ⟨position, 0, filter.joins⟩))
          ∧ filter.joins ≤ 1024 ∧ filter.callDepth ≤ 64
          ∧ ∃ printed position, parse filter.render = .ok printed
            ∧ Reading.outcome filter.render.toList = .ok (printed, ⟨position, 0, filter.joins⟩)
            ∧ printed.joins = filter.joins ∧ printed.callDepth = filter.callDepth := by
  refine ⟨(Reading.eachReader_isFollowed text.toList).mono Reading.IsFollowed.keepsAccounts,
    fun filter h => ?_⟩
  obtain ⟨writable, joins⟩ := isWritable_of_parse h
  have printed := parse_render_of_isWritable writable joins
  have same := reassociation_leftNested filter
  obtain ⟨position, again⟩ := outcome_of_parse printed
  rw [← same.joins_eq] at again
  exact ⟨outcome_of_parse h, joins, writable.callDepth_le, filter.leftNested, position, printed,
    again, same.joins_eq.symm, same.callDepth_eq.symm⟩

end Filter

end RecordQuery
