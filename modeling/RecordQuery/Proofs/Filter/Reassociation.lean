import RecordQuery.Filter.Evaluation
import RecordQuery.Proofs.Filter.Grammar

/-! Conjunctions and disjunctions up to association. Every filter has one form in which no chain of
either connective has its parentheses on the right, and reassociating changes neither the joins nor
what is accepted, since the sides are evaluated in the same order and a side is skipped only where
the chain has been decided.
-/

namespace RecordQuery

-----------------------------------------------------------------------------------------
-- Chains of one connective
-----------------------------------------------------------------------------------------

/-- What joins two filters. -/
inductive Connective where
  | and
  | or
  deriving DecidableEq

namespace Connective

/-- The filter that joins two others. -/
def join : Connective → Filter → Filter → Filter
  | .and => .and
  | .or => .or

/-- A filter whose outermost node is this connective. -/
def Joins (connective : Connective) (filter : Filter) : Prop :=
  ∃ left right, filter = connective.join left right

theorem joins_join (connective : Connective) (left right : Filter)
    : (connective.join left right).joins = left.joins + right.joins + 1 := by
  cases connective <;> rfl

/-- Every filter is built from filters that this connective does not join, along its left sides. -/
theorem chainInduction (connective : Connective) {motive : Filter → Prop}
    (join : ∀ left right, motive left → motive (connective.join left right))
    (other : ∀ filter, ¬ connective.Joins filter → motive filter) (filter : Filter)
    : motive filter := by
  induction filter with
  | comparison operator left right =>
      refine other _ ?_
      intro held
      obtain ⟨_, _, same⟩ := held
      cases connective <;> cases same
  | stringTest test first second =>
      refine other _ ?_
      intro held
      obtain ⟨_, _, same⟩ := held
      cases connective <;> cases same
  | and left right before _ =>
      cases connective with
      | and => exact join left right before
      | or =>
          refine other _ ?_
          intro held
          obtain ⟨_, _, same⟩ := held
          cases same
  | or left right before _ =>
      cases connective with
      | and =>
          refine other _ ?_
          intro held
          obtain ⟨_, _, same⟩ := held
          cases same
      | or => exact join left right before

/-- Join a filter with all parts of a chain, which stays folded to the left. -/
def append (connective : Connective) (left : Filter) : Filter → Filter
  | .and first last =>
    if connective = .and then .and (append connective left first) last
    else connective.join left (.and first last)
  | .or first last =>
    if connective = .or then .or (append connective left first) last
    else connective.join left (.or first last)
  | other => connective.join left other

@[simp]
theorem append_join (connective : Connective) (left first last : Filter)
    : connective.append left (connective.join first last)
      = connective.join (connective.append left first) last := by
  cases connective <;> rfl

theorem append_of_not_joins {connective : Connective} {right : Filter}
    (h : ¬ connective.Joins right) (left : Filter)
    : connective.append left right = connective.join left right := by
  cases right with
  | comparison => rfl
  | stringTest => rfl
  | and first last =>
      cases connective with
      | and => exact absurd ⟨first, last, rfl⟩ h
      | or => rfl
  | or first last =>
      cases connective with
      | and => rfl
      | or => exact absurd ⟨first, last, rfl⟩ h

/-- Appending chains is associative, by induction along the last one. -/
theorem append_append (connective : Connective) (first second third : Filter)
    : connective.append first (connective.append second third)
      = connective.append (connective.append first second) third := by
  induction third using chainInduction connective with
  | join left right ih => rw [append_join, append_join, append_join, ih]
  | other third single =>
      rw [append_of_not_joins single, append_of_not_joins single, append_join]

end Connective

namespace Filter

-----------------------------------------------------------------------------------------
-- All chains folded to the left
-----------------------------------------------------------------------------------------

/-- The filter with every chain of a connective folded to the left. -/
def leftNested : Filter → Filter
  | .and left right => Connective.and.append left.leftNested right.leftNested
  | .or left right => Connective.or.append left.leftNested right.leftNested
  | other => other

/-- No conjunction has a conjunction on its right, and no disjunction a disjunction. -/
def IsLeftNested : Filter → Prop
  | .and left right => left.IsLeftNested ∧ right.IsLeftNested ∧ ¬ Connective.and.Joins right
  | .or left right => left.IsLeftNested ∧ right.IsLeftNested ∧ ¬ Connective.or.Joins right
  | _ => True

theorem leftNested_join (connective : Connective) (left right : Filter)
    : (connective.join left right).leftNested
      = connective.append left.leftNested right.leftNested := by
  cases connective <;> rfl

theorem isLeftNested_join (connective : Connective) (left right : Filter)
    : (connective.join left right).IsLeftNested
      ↔ left.IsLeftNested ∧ right.IsLeftNested ∧ ¬ connective.Joins right := by
  cases connective <;> rfl

-----------------------------------------------------------------------------------------
-- What reassociation changes, and what it keeps
-----------------------------------------------------------------------------------------

/-- Two filters that differ only in how chains of one connective are parenthesized. -/
inductive Reassociation : Filter → Filter → Prop where
  | refl (filter : Filter) : Reassociation filter filter
  | symm {filter other : Filter} (h : Reassociation filter other) : Reassociation other filter
  | trans {filter middle other : Filter} (first : Reassociation filter middle)
      (second : Reassociation middle other)
      : Reassociation filter other
  | assoc (connective : Connective) (first second third : Filter)
      : Reassociation (connective.join first (connective.join second third))
        (connective.join (connective.join first second) third)
  | congr (connective : Connective) {left left' right right' : Filter}
      (first : Reassociation left left') (second : Reassociation right right')
      : Reassociation (connective.join left right) (connective.join left' right')

/-- Appending a chain is reassociating a join with it, by induction along the chain. -/
theorem reassociation_append (connective : Connective) (left right : Filter)
    : Reassociation (connective.join left right) (connective.append left right) := by
  induction right using Connective.chainInduction connective with
  | join first last ih =>
      rw [Connective.append_join]
      exact .trans (.assoc connective left first last) (.congr connective ih (.refl last))
  | other right single =>
      rw [Connective.append_of_not_joins single]
      exact .refl _

/-- Folding the chains to the left is reassociating them, by induction on the filter. -/
theorem reassociation_leftNested (filter : Filter) : Reassociation filter filter.leftNested := by
  induction filter with
  | comparison => exact .refl _
  | stringTest => exact .refl _
  | and left right before after =>
      exact .trans (.congr .and before after) (reassociation_append .and _ _)
  | or left right before after =>
      exact .trans (.congr .or before after) (reassociation_append .or _ _)

/-- A chain folded to the left stays so with another one in front of it. -/
theorem isLeftNested_append {connective : Connective} {left right : Filter}
    (before : left.IsLeftNested) (after : right.IsLeftNested)
    : (connective.append left right).IsLeftNested := by
  induction right using Connective.chainInduction connective with
  | join first last ih =>
      obtain ⟨nested, single, other⟩ := (isLeftNested_join connective first last).mp after
      rw [Connective.append_join, isLeftNested_join]
      exact ⟨ih nested, single, other⟩
  | other right single =>
      rw [Connective.append_of_not_joins single, isLeftNested_join]
      exact ⟨before, after, single⟩

theorem isLeftNested_leftNested (filter : Filter) : filter.leftNested.IsLeftNested := by
  induction filter with
  | comparison => exact trivial
  | stringTest => exact trivial
  | and left right before after => exact isLeftNested_append before after
  | or left right before after => exact isLeftNested_append before after

/-- Where all chains are folded to the left, folding them changes nothing. -/
theorem leftNested_of_isLeftNested {filter : Filter} (h : filter.IsLeftNested)
    : filter.leftNested = filter := by
  induction filter with
  | comparison => rfl
  | stringTest => rfl
  | and left right before after =>
      obtain ⟨nested, nested', single⟩ := h
      rw [leftNested, before nested, after nested', Connective.append_of_not_joins single]
      rfl
  | or left right before after =>
      obtain ⟨nested, nested', single⟩ := h
      rw [leftNested, before nested, after nested', Connective.append_of_not_joins single]
      rfl

theorem leftNested_eq_self_iff {filter : Filter}
    : filter.leftNested = filter ↔ filter.IsLeftNested := by
  constructor
  · intro same
    rw [← same]
    exact isLeftNested_leftNested filter
  · exact leftNested_of_isLeftNested

/-- Reassociated filters have the same form with all chains folded to the left. -/
theorem Reassociation.leftNested_eq {filter other : Filter} (h : Reassociation filter other)
    : filter.leftNested = other.leftNested := by
  induction h with
  | refl => rfl
  | symm _ ih => exact ih.symm
  | trans _ _ first second => exact first.trans second
  | assoc connective first second third =>
      simp only [leftNested_join, Connective.append_append]
  | congr connective _ _ first second => rw [leftNested_join, leftNested_join, first, second]

/-- The form with all chains folded to the left is the only one of its kind. -/
theorem Reassociation.eq_leftNested {filter other : Filter} (h : Reassociation filter other)
    (nested : other.IsLeftNested)
    : other = filter.leftNested := by
  rw [h.leftNested_eq, leftNested_of_isLeftNested nested]

theorem Reassociation.joins_eq {filter other : Filter} (h : Reassociation filter other)
    : filter.joins = other.joins := by
  induction h with
  | refl => rfl
  | symm _ ih => exact ih.symm
  | trans _ _ first second => exact first.trans second
  | assoc connective first second third =>
      simp only [Connective.joins_join]
      omega
  | congr connective _ _ first second =>
      rw [Connective.joins_join, Connective.joins_join, first, second]

/-- Reassociated filters accept the same records, and fail alike. -/
theorem Reassociation.accepts_eq {filter other : Filter} (h : Reassociation filter other)
    (record : Json)
    : filter.accepts record = other.accepts record := by
  induction h with
  | refl => rfl
  | symm _ ih => exact ih.symm
  | trans _ _ first second => exact first.trans second
  | assoc connective first second third =>
      -- the first side that decides the chain, or fails, is the same one in both forms
      cases connective with
      | and =>
          simp only [Connective.join, accepts, bind_assoc]
          refine bind_congr (fun accepted => ?_)
          cases accepted <;> simp
      | or =>
          simp only [Connective.join, accepts, bind_assoc]
          refine bind_congr (fun accepted => ?_)
          cases accepted <;> simp
  | congr connective _ _ first second =>
      cases connective with
      | and => simp only [Connective.join, accepts, first, second]
      | or => simp only [Connective.join, accepts, first, second]

end Filter

end RecordQuery
