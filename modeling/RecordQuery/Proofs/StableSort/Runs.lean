import Mathlib.Data.List.Chain
import RecordQuery.Proofs.StableSort.Splitting

/-! Sorting by runs. However a list is cut into runs and in whatever order neighbouring runs are
joined, the runs one after the other are the list up to exchanges of neighbours that stand the wrong
way round, and those that count as sorted are. So the last run is the stable order of the list.
-/

namespace RecordQuery.StableSort

variable {α : Type} {rank : α → Int} {precedes : α → α → Bool} {left right items sorted : List α}

-----------------------------------------------------------------------------------------
-- Merging until one list is used up
-----------------------------------------------------------------------------------------

theorem mergeFront_perm (precedes : α → α → Bool) (left right : List α)
    : (mergeFront precedes left right).Perm (left ++ right) := by
  have taken := takeFront_perm precedes (left.length + right.length) left right
  unfold mergeFront
  dsimp only
  generalize takeFront precedes _ left right = front at *
  have parts := parts_perm (left.take front.fromLeft) [] (left.drop front.fromLeft)
    (right.take front.fromRight) [] (right.drop front.fromRight)
  simp only [List.append_nil, List.nil_append, List.take_append_drop] at parts
  rw [List.append_assoc]
  exact (taken.append_right _).trans parts

/-- With as many items to take as there are, one of the lists is used up. -/
theorem takeFront_usesUp (precedes : α → α → Bool) {count : Nat}
    (all : left.length + right.length ≤ count)
    : (takeFront precedes count left right).fromLeft = left.length
      ∨ (takeFront precedes count left right).fromRight = right.length := by
  fun_induction takeFront precedes count left right with
  | case1 count x xs y ys ahead later ih =>
      refine (ih ?_).imp_right (congrArg Nat.succ)
      simp only [List.length_cons] at all ⊢
      omega
  | case2 count x xs y ys behind later ih =>
      refine (ih ?_).imp_left (congrArg Nat.succ)
      simp only [List.length_cons] at all ⊢
      omega
  | case3 count left right ended =>
      cases left with
      | nil => exact .inl rfl
      | cons x xs =>
          cases right with
          | nil => exact .inr rfl
          | cons y ys =>
              cases count with
              | zero => cases all
              | succ count => exact absurd rfl (ended count x xs y ys rfl rfl)

theorem isSortOf_mergeFront (ranked : IsRanked rank precedes (left ++ right))
    (first : InOrder rank left) (second : InOrder rank right)
    : IsSortOf rank (left ++ right) (mergeFront precedes left right) := by
  have cut := isCut_takeFront (left.length + right.length) ranked first second
  have front := isSortOf_takeFront (left.length + right.length) ranked first second
  have usedUp := takeFront_usesUp precedes (Nat.le_refl (left.length + right.length))
  unfold mergeFront
  dsimp only
  generalize takeFront precedes _ left right = taken at *
  have rest : InOrder rank (left.drop taken.fromLeft ++ right.drop taken.fromRight) := by
    rcases usedUp with none | none
    · rw [none, List.drop_length, List.nil_append]
      exact second.drop
    · rw [none, List.drop_length, List.append_nil]
      exact first.drop
  have whole : IsSortOf rank
      ((left.take taken.fromLeft ++ ([] ++ left.drop taken.fromLeft))
        ++ (right.take taken.fromRight ++ ([] ++ right.drop taken.fromRight)))
      (taken.items ++ [] ++ (left.drop taken.fromLeft ++ right.drop taken.fromRight)) :=
    isSortOf_parts (by simpa using first) (by simpa using second) front (isSortOf_self .nil)
      (isSortOf_self rest) cut.leftFirst cut.rightFirst nofun nofun
  simpa [List.append_assoc] using whole

theorem merge_perm (precedes : α → α → Bool) (left right : List α)
    : (merge precedes left right).Perm (left ++ right) := by
  unfold merge
  split
  · exact mergeFront_perm precedes left right
  · refine (List.reverse_perm _).trans ((mergeFront_perm _ _ _).trans ?_)
    rw [← List.reverse_append]
    exact List.reverse_perm _

/-- From whichever end they are merged, two lists in order give the stable order. -/
theorem isSortOf_merge (ranked : IsRanked rank precedes (left ++ right))
    (first : InOrder rank left) (second : InOrder rank right)
    : IsSortOf rank (left ++ right) (merge precedes left right) := by
  unfold merge
  split
  · exact isSortOf_mergeFront ranked first second
  · have turned := isSortOf_mergeFront ranked.turned_append second.turned first.turned
    simpa using turned.of_turned

-----------------------------------------------------------------------------------------
-- Runs that exist
-----------------------------------------------------------------------------------------

theorem frontLength_pos (follows : α → α → Bool) (given : items ≠ [])
    : 0 < frontLength follows items := by
  fun_cases frontLength follows items with
  | case1 last next rest goesOn => exact Nat.succ_pos _
  | case2 last next rest ends => exact Nat.one_pos
  | case3 last => exact Nat.one_pos
  | case4 => exact absurd rfl given

/-- The items at the front stand each to the one before it as they should. -/
theorem isChain_take_frontLength (follows : α → α → Bool) (items : List α)
    : (items.take (frontLength follows items)).IsChain (fun x y => follows x y = true) := by
  fun_induction frontLength follows items with
  | case1 last next rest goesOn ih =>
      obtain ⟨count, more⟩ := Nat.exists_eq_add_one.mpr
        (frontLength_pos follows (List.cons_ne_nil next rest))
      rw [more, List.take_succ_cons] at ih ⊢
      exact List.isChain_cons_cons.mpr ⟨goesOn, ih⟩
  | case2 last next rest ends => exact .singleton last
  | case3 last => exact .singleton last
  | case4 => exact .nil

theorem take_length_take (items : List α) (count : Nat)
    : items.take (items.take count).length = items.take count := by
  rw [List.length_take, List.take_eq_take_iff]
  omega

/-- A run that exists is the front of the list. -/
theorem existingRun_perm (precedes : α → α → Bool) (items : List α)
    : (existingRun precedes items).Perm (items.take (existingRun precedes items).length) := by
  unfold existingRun
  split
  · rw [List.length_reverse, take_length_take]
    exact List.reverse_perm _
  · rw [take_length_take]

theorem existingRun_length_pos (precedes : α → α → Bool) (given : items ≠ [])
    : 0 < (existingRun precedes items).length := by
  have long := List.length_pos_of_ne_nil given
  unfold existingRun
  split
  · rw [List.length_reverse, List.length_take]
    exact Nat.lt_min.mpr ⟨frontLength_pos _ given, long⟩
  · rw [List.length_take]
    exact Nat.lt_min.mpr ⟨frontLength_pos _ given, long⟩

/-- It is in order: what falls strictly is turned round. -/
theorem isSortOf_existingRun (ranked : IsRanked rank precedes items)
    : IsSortOf rank (items.take (existingRun precedes items).length)
        (existingRun precedes items) := by
  have order (count : Nat) {x y : α} (first : x ∈ items.take count) (second : y ∈ items.take count)
      : precedes y x = decide (rank y < rank x) :=
    ranked y (List.mem_of_mem_take second) x (List.mem_of_mem_take first)
  unfold existingRun
  split
  · have falling := isChain_take_frontLength (fun last next => precedes next last) items
    rw [List.length_reverse, take_length_take]
    generalize frontLength _ items = count at *
    have ranks : (items.take count).IsChain (fun x y => rank y < rank x) :=
      falling.imp_of_mem_imp fun x y first second follows => by
        rwa [order count first second, decide_eq_true_iff] at follows
    have : IsTrans α (fun x y => rank y < rank x) :=
      ⟨fun _ _ _ first second => Int.lt_trans second first⟩
    have against := List.isChain_iff_pairwise.mp ranks
    exact ⟨.reverse against, List.pairwise_reverse.mpr (against.imp Int.le_of_lt)⟩
  · have rising := isChain_take_frontLength (fun last next => !precedes next last) items
    rw [take_length_take]
    generalize frontLength _ items = count at *
    have ranks : (items.take count).IsChain (fun x y => rank x ≤ rank y) :=
      rising.imp_of_mem_imp fun x y first second follows => by
        simpa [order count first second] using follows
    have : IsTrans α (fun x y => rank x ≤ rank y) :=
      ⟨fun _ _ _ => Int.le_trans⟩
    exact isSortOf_self (List.isChain_iff_pairwise.mp ranks)

end RecordQuery.StableSort
