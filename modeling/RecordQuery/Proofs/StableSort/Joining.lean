import RecordQuery.Proofs.StableSort.Runs

/-! Joining runs. The runs one after the other are the list up to exchanges of neighbours that stand
the wrong way round, whatever runs are joined first, and those that count as sorted are in order. So
the one run that is left gives the stable order of the list.
-/

namespace RecordQuery.StableSort

variable {α : Type} {rank : α → Int} {precedes : α → α → Bool} {items sorted rest : List α}
  {sortRun : List α → Option (List α)} {mode : Mode} {shortest room depth done : Nat}

/-- A run that counts as sorted is in order. -/
def Run.IsInOrder (rank : α → Int) (run : Run α) : Prop :=
  run.isSorted → InOrder rank run.items

/-- A run of some items, which are in order if it counts as sorted. -/
structure Run.IsRunOf (rank : α → Int) (items : List α) (run : Run α) : Prop where
  exchanged : Exchanged rank items run.items
  inOrder : run.IsInOrder rank

/-- The items of runs that are held last first. -/
def itemsOf : List (Run α × Nat) → List α
  | [] => []
  | (run, _) :: others => itemsOf others ++ run.items

-----------------------------------------------------------------------------------------
-- Making runs
-----------------------------------------------------------------------------------------

/-- The next run has some items, from the front of the list. -/
theorem perm_of_nextRun {run : Run α} (positive : 0 < shortest) (given : items ≠ [])
    (next : nextRun precedes mode shortest items = some run)
    : 0 < run.items.length ∧ run.items.Perm (items.take run.items.length) := by
  have some := List.length_pos_of_ne_nil given
  unfold nextRun at next
  dsimp only at next
  split at next
  · cases next
    exact ⟨existingRun_length_pos precedes given, existingRun_perm precedes items⟩
  · cases mode with
    | lazy =>
        cases next
        dsimp only
        rw [take_length_take, List.length_take]
        exact ⟨Nat.lt_min.mpr ⟨positive, some⟩, .refl _⟩
    | eager =>
        obtain ⟨sorted, sort, rfl⟩ := Option.map_eq_some_iff.mp next
        have perm := isPermuting_sortBlock precedes sort
        have length := perm.length_eq
        dsimp only
        rw [length, take_length_take]
        refine ⟨?_, perm⟩
        rw [List.length_take]
        exact Nat.lt_min.mpr ⟨by decide, some⟩

/-- There is a next run where the order is that of ranks. -/
theorem exists_nextRun (mode : Mode) (shortest : Nat) (ranked : IsRanked rank precedes items)
    : ∃ run, nextRun precedes mode shortest items = some run
      ∧ run.IsRunOf rank (items.take run.items.length) := by
  unfold nextRun
  dsimp only
  split
  · have existing := isSortOf_existingRun ranked
    exact ⟨_, rfl, existing.exchanged, fun _ => existing.ordered⟩
  · cases mode with
    | lazy =>
        refine ⟨_, rfl, ?_, nofun⟩
        rw [take_length_take]
        exact .refl _
    | eager =>
        obtain ⟨sorted, sort, isSort⟩ := isSorting_sortBlock rank precedes
          (ranked.mono (List.take_subset maxBlock items))
        refine ⟨⟨sorted, true⟩, by rw [sort]; rfl, ?_, fun _ => isSort.ordered⟩
        dsimp only
        rw [isSort.exchanged.perm.length_eq, take_length_take]
        exact isSort.exchanged

theorem approximateRoot_pos {n : Nat} (large : 4096 ≤ n) : 0 < approximateRoot n := by
  unfold approximateRoot
  have logarithm : 12 ≤ n.log2 := (Nat.le_log2 (by omega)).mpr large
  have power : twoPow 6 ≤ twoPow ((1 + n.log2) / 2) := twoPow_le_twoPow (by omega)
  refine Nat.div_pos ?_ (by decide)
  exact Nat.le_add_right_of_le (Nat.le_trans (by decide) power)

/-- In a list of any length a run has items. -/
theorem minRun_pos {length : Nat} (given : 0 < length) : 0 < minRun length := by
  unfold minRun
  split
  · omega
  · exact approximateRoot_pos (by omega)

-----------------------------------------------------------------------------------------
-- Joining two runs
-----------------------------------------------------------------------------------------

theorem perm_of_sorted? {run : Run α} (permuting : IsPermuting sortRun)
    (sort : run.sorted? sortRun = some sorted)
    : sorted.Perm run.items := by
  unfold Run.sorted? at sort
  split at sort
  · cases sort
    exact .refl _
  · exact permuting sort

theorem exists_sorted? {run : Run α} (sorting : IsSorting rank precedes sortRun)
    (ranked : IsRanked rank precedes run.items) (inOrder : run.IsInOrder rank)
    : ∃ sorted, run.sorted? sortRun = some sorted ∧ IsSortOf rank run.items sorted := by
  unfold Run.sorted?
  split
  · next held => exact ⟨run.items, rfl, isSortOf_self (inOrder held)⟩
  · exact sorting ranked

theorem perm_of_join {left right joined : Run α} (permuting : IsPermuting sortRun)
    (join : left.join precedes sortRun room right = some joined)
    : joined.items.Perm (left.items ++ right.items) := by
  unfold Run.join at join
  split at join
  · obtain ⟨first, sortFirst, join⟩ := Option.bind_eq_some_iff.mp join
    obtain ⟨second, sortSecond, join⟩ := Option.bind_eq_some_iff.mp join
    cases join
    exact (merge_perm precedes first second).trans
      ((perm_of_sorted? permuting sortFirst).append (perm_of_sorted? permuting sortSecond))
  · cases join
    exact .refl _

theorem exists_join {left right : Run α} (sorting : IsSorting rank precedes sortRun) (room : Nat)
    (ranked : IsRanked rank precedes (left.items ++ right.items))
    (first : left.IsInOrder rank) (second : right.IsInOrder rank)
    : ∃ joined, left.join precedes sortRun room right = some joined
      ∧ joined.IsRunOf rank (left.items ++ right.items) := by
  unfold Run.join
  split
  · obtain ⟨front, sortFront, isSortFront⟩ := exists_sorted? sorting
      (ranked.mono (List.subset_append_left ..)) first
    obtain ⟨back, sortBack, isSortBack⟩ := exists_sorted? sorting
      (ranked.mono (List.subset_append_right ..)) second
    have exchanged := isSortFront.exchanged.append isSortBack.exchanged
    have merged := isSortOf_merge (ranked.mono exchanged.perm.subset) isSortFront.ordered
      isSortBack.ordered
    exact ⟨⟨merge precedes front back, true⟩, by rw [sortFront, sortBack]; rfl,
      exchanged.trans merged.exchanged, fun _ => merged.ordered⟩
  · exact ⟨_, rfl, .refl _, nofun⟩

-----------------------------------------------------------------------------------------
-- Joining all runs
-----------------------------------------------------------------------------------------

variable {plan : Plan α} {before others : List (Run α × Nat)} {last joined whole : Run α}

/-- A plan that makes and joins runs of the items at hand. -/
structure Plan.IsPermuting (plan : Plan α) : Prop where
  next : ∀ {items run}, items ≠ [] → plan.next items = some run
    → 0 < run.items.length ∧ run.items.Perm (items.take run.items.length)
  join : ∀ {left right joined}, plan.join left right = some joined
    → joined.items.Perm (left.items ++ right.items)

/-- A plan that makes and joins runs wherever the order is that of ranks. -/
structure Plan.IsSorting (rank : α → Int) (precedes : α → α → Bool) (plan : Plan α) : Prop where
  next : ∀ {items}, IsRanked rank precedes items
    → ∃ run, plan.next items = some run ∧ run.IsRunOf rank (items.take run.items.length)
  join : ∀ {left right : Run α}, IsRanked rank precedes (left.items ++ right.items)
    → left.IsInOrder rank → right.IsInOrder rank
    → ∃ joined, plan.join left right = some joined
      ∧ joined.IsRunOf rank (left.items ++ right.items)

/-- Joining a run with those before it keeps the items, by induction on the runs before. -/
theorem Plan.IsPermuting.joinBefore (permuting : plan.IsPermuting)
    (join : joinBefore plan.join depth before last = some (others, joined))
    : (itemsOf others ++ joined.items).Perm (itemsOf before ++ last.items) := by
  induction before generalizing last with
  | nil =>
      cases join
      exact .refl _
  | cons run before ih =>
      unfold StableSort.joinBefore at join
      split at join
      · obtain ⟨both, joinRuns, join⟩ := Option.bind_eq_some_iff.mp join
        rw [itemsOf, List.append_assoc]
        exact (ih join).trans ((permuting.join joinRuns).append_left (itemsOf before))
      · cases join
        exact .refl _

/-- It succeeds where the order is that of ranks. -/
theorem Plan.IsSorting.exists_joinBefore (sorting : plan.IsSorting rank precedes) (depth : Nat)
    (ranked : IsRanked rank precedes (itemsOf before ++ last.items))
    (inOrder : ∀ run ∈ before, run.1.IsInOrder rank) (lastInOrder : last.IsInOrder rank)
    : ∃ others joined, joinBefore plan.join depth before last = some (others, joined)
      ∧ Exchanged rank (itemsOf before ++ last.items) (itemsOf others ++ joined.items)
      ∧ (∀ run ∈ others, run.1.IsInOrder rank) ∧ joined.IsInOrder rank := by
  induction before generalizing last with
  | nil => exact ⟨[], last, rfl, .refl _, nofun, lastInOrder⟩
  | cons run before ih =>
      unfold joinBefore
      split
      · obtain ⟨here, inOrderBefore⟩ := List.forall_mem_cons.mp inOrder
        rw [itemsOf, List.append_assoc] at ranked ⊢
        obtain ⟨both, joinRuns, isRun⟩ := sorting.join
          (ranked.mono (List.subset_append_right ..)) here lastInOrder
        have exchanged := isRun.exchanged.append_left (itemsOf before)
        obtain ⟨others, joined, join, more, kept⟩ := ih (ranked.mono exchanged.perm.subset)
          inOrderBefore isRun.inOrder
        exact ⟨others, joined, by rw [joinRuns]; exact join, exchanged.trans more, kept⟩
      · exact ⟨_, _, rfl, .refl _, inOrder, lastInOrder⟩

/-- Every run is at least as deep as the root, so at the end all are joined. -/
theorem eq_nil_of_joinBefore_zero {join : Run α → Run α → Option (Run α)}
    (joins : joinBefore join 0 before last = some (others, joined))
    : others = [] := by
  induction before generalizing last with
  | nil =>
      cases joins
      rfl
  | cons run before ih =>
      rw [joinBefore, if_pos (Nat.zero_le _)] at joins
      obtain ⟨both, _, joins⟩ := Option.bind_eq_some_iff.mp joins
      exact ih joins

/-- The items behind a run, as they follow its first one. -/
theorem take_append_drop_pred {item : α} {count : Nat} (positive : 0 < count)
    : (item :: rest).take count ++ rest.drop (count - 1) = item :: rest := by
  cases count with
  | zero => cases positive
  | succ count => exact List.take_append_drop (count + 1) (item :: rest)

/-- All runs together have all items, by induction on the items that no run has yet. -/
theorem Plan.IsPermuting.joinAll (permuting : plan.IsPermuting)
    (join : plan.joinAll before last done rest = some whole)
    : whole.items.Perm (itemsOf before ++ last.items ++ rest) := by
  induction before, last, done, rest using Plan.joinAll.induct plan with
  | case1 before last done =>
      rw [Plan.joinAll] at join
      obtain ⟨⟨others, joined⟩, joins, same⟩ := Option.bind_eq_some_iff.mp join
      cases same
      have perm := permuting.joinBefore joins
      rw [eq_nil_of_joinBefore_zero joins] at perm
      rwa [List.append_nil]
  | case2 before last done item rest ih =>
      rw [Plan.joinAll] at join
      obtain ⟨next, nextRun, join⟩ := Option.bind_eq_some_iff.mp join
      obtain ⟨⟨others, joined⟩, joins, join⟩ := Option.bind_eq_some_iff.mp join
      obtain ⟨positive, first⟩ := permuting.next (List.cons_ne_nil item rest) nextRun
      refine (ih next others joined join).trans ?_
      rw [itemsOf, List.append_assoc]
      refine (permuting.joinBefore joins).append ?_
      refine (first.append_right _).trans ?_
      rw [take_append_drop_pred positive]

/-- They are joined where the order is that of ranks, and the items come from the list by exchanges
of neighbours that stand the wrong way round.
-/
theorem Plan.IsSorting.exists_joinAll (sorting : plan.IsSorting rank precedes)
    (before : List (Run α × Nat)) (done : Nat) (permuting : plan.IsPermuting)
    (ranked : IsRanked rank precedes (itemsOf before ++ last.items ++ rest))
    (inOrder : ∀ run ∈ before, run.1.IsInOrder rank) (lastInOrder : last.IsInOrder rank)
    : ∃ whole, plan.joinAll before last done rest = some whole
      ∧ whole.IsRunOf rank (itemsOf before ++ last.items ++ rest) := by
  induction before, last, done, rest using Plan.joinAll.induct plan with
  | case1 before last done =>
      rw [List.append_nil] at ranked ⊢
      obtain ⟨others, whole, joins, exchanged, _, kept⟩ :=
        sorting.exists_joinBefore 0 ranked inOrder lastInOrder
      rw [eq_nil_of_joinBefore_zero joins] at exchanged
      exact ⟨whole, by rw [Plan.joinAll, joins]; rfl, exchanged, kept⟩
  | case2 before last done item rest ih =>
      obtain ⟨next, nextRun, isRun⟩ := sorting.next
        (ranked.mono (List.subset_append_right _ (item :: rest)))
      obtain ⟨positive, _⟩ := permuting.next (List.cons_ne_nil item rest) nextRun
      obtain ⟨others, joined, joins, exchanged, kept, joinedKept⟩ :=
        sorting.exists_joinBefore (plan.depth (done - last.items.length) done
            (done + next.items.length))
          (ranked.mono (List.subset_append_left ..)) inOrder lastInOrder
      have cut : Exchanged rank (item :: rest)
          (next.items ++ rest.drop (next.items.length - 1)) := by
        have made := isRun.exchanged.append_right (rest.drop (next.items.length - 1))
        rwa [take_append_drop_pred positive] at made
      have step := exchanged.append cut
      rw [← List.append_assoc] at step
      obtain ⟨whole, more, isWhole⟩ := ih next others joined (ranked.mono step.perm.subset)
        (List.forall_mem_cons.mpr ⟨joinedKept, kept⟩) isRun.inOrder
      refine ⟨whole, ?_, step.trans isWhole.exchanged, isWhole.inOrder⟩
      rw [Plan.joinAll, nextRun]
      dsimp only [Option.bind_eq_bind, Option.bind_some]
      rw [joins]
      exact more

-----------------------------------------------------------------------------------------
-- Sorting by runs
-----------------------------------------------------------------------------------------

/-- How the runs of a list are made and joined. -/
theorem isPermuting_plan (permuting : IsPermuting sortRun) (mode : Mode) (room : Nat)
    (given : items ≠ [])
    : (runPlan precedes mode sortRun room items.length).IsPermuting where
  next := perm_of_nextRun (minRun_pos (List.length_pos_of_ne_nil given))
  join := perm_of_join permuting

theorem isSorting_plan (sorting : IsSorting rank precedes sortRun) (mode : Mode) (room length : Nat)
    : (runPlan precedes mode sortRun room length).IsSorting rank precedes where
  next := exists_nextRun mode (minRun length)
  join := exists_join sorting room

theorem isPermuting_sortByRuns (permuting : IsPermuting sortRun) (mode : Mode) (room : Nat)
    : IsPermuting (sortByRuns precedes mode sortRun room) := by
  intro items sorted sort
  cases items with
  | nil =>
      cases sort
      exact .refl []
  | cons item rest =>
      have plan : (runPlan precedes mode sortRun room (item :: rest).length).IsPermuting :=
        isPermuting_plan permuting mode room (List.cons_ne_nil item rest)
      unfold sortByRuns at sort
      obtain ⟨first, firstRun, sort⟩ := Option.bind_eq_some_iff.mp sort
      obtain ⟨whole, join, sort⟩ := Option.bind_eq_some_iff.mp sort
      have front := (plan.next (List.cons_ne_nil item rest) firstRun).2
      refine (perm_of_sorted? permuting sort).trans ((plan.joinAll join).trans ?_)
      refine (front.append_right _).trans ?_
      rw [List.take_append_drop]

theorem isSorting_sortByRuns (sorting : IsSorting rank precedes sortRun)
    (permuting : IsPermuting sortRun) (mode : Mode) (room : Nat)
    : IsSorting rank precedes (sortByRuns precedes mode sortRun room) := by
  intro items ranked
  cases items with
  | nil => exact ⟨[], rfl, isSortOf_self .nil⟩
  | cons item rest =>
      have plan := isSorting_plan sorting mode room (item :: rest).length
      obtain ⟨first, firstRun, isRun⟩ := plan.next ranked
      have cut := isRun.exchanged.append_right ((item :: rest).drop first.items.length)
      rw [List.take_append_drop] at cut
      obtain ⟨whole, join, isWhole⟩ := plan.exists_joinAll [] first.items.length
        (isPermuting_plan permuting mode room (List.cons_ne_nil item rest))
        (ranked.mono cut.perm.subset) nofun isRun.inOrder
      have exchanged := cut.trans isWhole.exchanged
      obtain ⟨sorted, sort, isSort⟩ := exists_sorted? sorting
        (ranked.mono exchanged.perm.subset) isWhole.inOrder
      refine ⟨sorted, ?_, .of_exchanged exchanged isSort⟩
      unfold sortByRuns
      dsimp only
      rw [firstRun]
      dsimp only [Option.bind_eq_bind, Option.bind_some]
      rw [join]
      exact sort

-----------------------------------------------------------------------------------------
-- Sorting
-----------------------------------------------------------------------------------------

theorem isPermuting_sortEagerly (precedes : α → α → Bool) (room : Nat)
    : IsPermuting (sortEagerly precedes room) :=
  isPermuting_sortByRuns (isPermuting_sortBlock precedes) .eager room

theorem isSorting_sortEagerly (rank : α → Int) (precedes : α → α → Bool) (room : Nat)
    : IsSorting rank precedes (sortEagerly precedes room) :=
  isSorting_sortByRuns (isSorting_sortBlock rank precedes) (isPermuting_sortBlock precedes) .eager
    room

theorem isPermuting_sortBySplitting (precedes : α → α → Bool) (room : Nat)
    : IsPermuting (sortBySplitting precedes room) := fun _ _ sort =>
  isPermuting_splitSort (isPermuting_sortEagerly precedes room) _ none sort

theorem isSorting_sortBySplitting (rank : α → Int) (precedes : α → α → Bool) (room : Nat)
    : IsSorting rank precedes (sortBySplitting precedes room) := fun _ ranked =>
  exists_splitSort (isSorting_sortEagerly rank precedes room) _ none ranked nofun

/-- Whatever the order, a result has the items of the list. -/
theorem sort_perm (sort : sort precedes items = some sorted) : sorted.Perm items := by
  unfold StableSort.sort at sort
  split at sort
  · cases sort
    exact insertionSort_perm precedes items
  · dsimp only at sort
    split at sort
    · exact isPermuting_sortEagerly precedes _ sort
    · exact isPermuting_sortByRuns (isPermuting_sortBySplitting precedes _) .lazy _ sort

/-- Where the order is that of ranks there is a result, and it is the stable one. -/
theorem exists_sort (ranked : IsRanked rank precedes items)
    : ∃ sorted, sort precedes items = some sorted ∧ IsSortOf rank items sorted := by
  unfold sort
  split
  · exact ⟨_, rfl, isSortOf_insertionSort ranked⟩
  · dsimp only
    split
    · exact isSorting_sortEagerly rank precedes _ ranked
    · exact isSorting_sortByRuns (isSorting_sortBySplitting rank precedes _)
        (isPermuting_sortBySplitting precedes _) .lazy _ ranked

end RecordQuery.StableSort
