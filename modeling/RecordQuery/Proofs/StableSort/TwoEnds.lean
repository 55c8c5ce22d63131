import RecordQuery.Proofs.StableSort.Blocks

/-! Merging two sorted lists from both ends. Where the order is that of ranks, there is one place in
each list up to which items have gone when a given number of them has been taken, from whichever end
they are taken, so the two ends meet. Where they do not meet there is no result, and where they do
all items are there.
-/

namespace RecordQuery.StableSort

variable {α : Type} {rank : α → Int} {precedes : α → α → Bool}
  {left right items sorted : List α} {count : Nat}

-----------------------------------------------------------------------------------------
-- Items that were taken
-----------------------------------------------------------------------------------------

/-- What is taken are the first items of both lists. -/
theorem takeFront_perm (precedes : α → α → Bool) (count : Nat) (left right : List α)
    : (takeFront precedes count left right).items.Perm
        (left.take (takeFront precedes count left right).fromLeft
          ++ right.take (takeFront precedes count left right).fromRight) := by
  fun_induction takeFront precedes count left right with
  | case1 count x xs y ys ahead later ih => exact (ih.cons y).trans List.perm_middle.symm
  | case2 count x xs y ys behind later ih => exact ih.cons x
  | case3 => exact .refl []

theorem fromLeft_le (precedes : α → α → Bool) (count : Nat) (left right : List α)
    : (takeFront precedes count left right).fromLeft ≤ left.length := by
  fun_induction takeFront precedes count left right with
  | case1 count x xs y ys ahead later ih => exact ih
  | case2 count x xs y ys behind later ih => exact Nat.succ_le_succ ih
  | case3 => exact Nat.zero_le _

theorem fromRight_le (precedes : α → α → Bool) (count : Nat) (left right : List α)
    : (takeFront precedes count left right).fromRight ≤ right.length := by
  fun_induction takeFront precedes count left right with
  | case1 count x xs y ys ahead later ih => exact Nat.succ_le_succ ih
  | case2 count x xs y ys behind later ih => exact ih
  | case3 => exact Nat.zero_le _

/-- As many items are taken as are asked for, if neither list can run out. -/
theorem fromLeft_add_fromRight (enoughLeft : count ≤ left.length)
    (enoughRight : count ≤ right.length)
    : (takeFront precedes count left right).fromLeft
        + (takeFront precedes count left right).fromRight = count := by
  fun_induction takeFront precedes count left right with
  | case1 count x xs y ys ahead later ih =>
      have := ih (by omega) (by simpa using enoughRight)
      dsimp only [later] at *
      omega
  | case2 count x xs y ys behind later ih =>
      have := ih (by simpa using enoughLeft) (by omega)
      dsimp only [later] at *
      omega
  | case3 count left right ended =>
      cases count with
      | zero => rfl
      | succ count =>
          cases left with
          | nil => simp at enoughLeft
          | cons x xs =>
              cases right with
              | nil => simp at enoughRight
              | cons y ys => exact absurd rfl (ended count x xs y ys rfl rfl)

-----------------------------------------------------------------------------------------
-- How far each list has been taken
-----------------------------------------------------------------------------------------

/-- Two lists are cut at places such that what stands before the places goes before what stands
behind them, in the stable order of the first list and then the second.
-/
structure IsCut (rank : α → Int) (left right : List α) (atLeft atRight : Nat) : Prop where
  leftFirst : ∀ x ∈ left.take atLeft, ∀ y ∈ right.drop atRight, rank x ≤ rank y
  rightFirst : ∀ y ∈ right.take atRight, ∀ x ∈ left.drop atLeft, rank y < rank x

/-- Taking from the fronts cuts the lists. -/
theorem isCut_takeFront (count : Nat) (ranked : IsRanked rank precedes (left ++ right))
    (first : InOrder rank left) (second : InOrder rank right)
    : IsCut rank left right (takeFront precedes count left right).fromLeft
        (takeFront precedes count left right).fromRight := by
  fun_induction takeFront precedes count left right with
  | case1 count x xs y ys ahead later ih =>
      have order := ranked y (by simp) x (by simp)
      rw [order, decide_eq_true_iff] at ahead
      have before := ih (ranked.mono (by grind)) first second.tail
      refine ⟨before.leftFirst, fun z member w listed => ?_⟩
      rcases List.mem_cons.mp member with rfl | member
      · rcases List.mem_cons.mp (List.mem_of_mem_drop listed) with rfl | listed
        · exact ahead
        · exact Int.lt_of_lt_of_le ahead (List.rel_of_pairwise_cons first listed)
      · exact before.rightFirst z member w listed
  | case2 count x xs y ys behind later ih =>
      have order := ranked y (by simp) x (by simp)
      rw [order, decide_eq_true_iff, Int.not_lt] at behind
      have before := ih (ranked.mono (by grind)) first.tail second
      refine ⟨fun z member w listed => ?_, before.rightFirst⟩
      rcases List.mem_cons.mp member with rfl | member
      · rcases List.mem_cons.mp (List.mem_of_mem_drop listed) with rfl | listed
        · exact behind
        · exact Int.le_trans behind (List.rel_of_pairwise_cons second listed)
      · exact before.leftFirst z member w listed
  | case3 => exact ⟨nofun, nofun⟩

/-- What is taken from the fronts is the stable order of it. -/
theorem isSortOf_takeFront (count : Nat) (ranked : IsRanked rank precedes (left ++ right))
    (first : InOrder rank left) (second : InOrder rank right)
    : IsSortOf rank
        (left.take (takeFront precedes count left right).fromLeft
          ++ right.take (takeFront precedes count left right).fromRight)
        (takeFront precedes count left right).items := by
  fun_induction takeFront precedes count left right with
  | case1 count x xs y ys ahead later ih =>
      have order := ranked y (by simp) x (by simp)
      rw [order, decide_eq_true_iff] at ahead
      have lowest : ∀ z ∈ x :: xs, rank y < rank z := by
        intro z member
        rcases List.mem_cons.mp member with rfl | member
        · exact ahead
        · exact Int.lt_of_lt_of_le ahead (List.rel_of_pairwise_cons first member)
      refine .of_exchanged (.before (fun z member => lowest z (List.mem_of_mem_take member)) _) ?_
      refine (isSortOf_self (List.pairwise_singleton _ y)).append
        (ih (ranked.mono (by grind)) first second.tail) ?_
      intro w same z member
      rw [List.mem_singleton.mp same]
      rcases List.mem_append.mp member with member | member
      · exact Int.le_of_lt (lowest z (List.mem_of_mem_take member))
      · exact List.rel_of_pairwise_cons second (List.mem_of_mem_take member)
  | case2 count x xs y ys behind later ih =>
      have order := ranked y (by simp) x (by simp)
      rw [order, decide_eq_true_iff, Int.not_lt] at behind
      refine (isSortOf_self (List.pairwise_singleton _ x)).append
        (ih (ranked.mono (by grind)) first.tail second) ?_
      intro w same z member
      rw [List.mem_singleton.mp same]
      rcases List.mem_append.mp member with member | member
      · exact List.rel_of_pairwise_cons first (List.mem_of_mem_take member)
      · rcases List.mem_cons.mp (List.mem_of_mem_take member) with rfl | member
        · exact behind
        · exact Int.le_trans behind (List.rel_of_pairwise_cons second member)
  | case3 => exact isSortOf_self .nil

/-- Of two cuts, the one with fewer items before it is not behind the other in either list. -/
theorem IsCut.le {atLeft atRight toLeft toRight : Nat} (cut : IsCut rank left right atLeft atRight)
    (other : IsCut rank left right toLeft toRight) (sum : atLeft + atRight ≤ toLeft + toRight)
    (inLeft : atLeft ≤ left.length) (inRight : atRight ≤ right.length)
    (toInLeft : toLeft ≤ left.length) (toInRight : toRight ≤ right.length)
    : atLeft ≤ toLeft ∧ atRight ≤ toRight := by
  have taken (list : List α) (i : Nat) {n : Nat} (within : i < list.length) (below : i < n)
      : list[i] ∈ list.take n :=
    List.mem_take_iff_getElem.mpr ⟨i, by omega, rfl⟩
  have dropped (list : List α) (i : Nat) {n : Nat} (within : i < list.length) (above : n ≤ i)
      : list[i] ∈ list.drop n :=
    List.mem_drop_iff_getElem.mpr ⟨i - n, by omega, by simp [Nat.add_sub_cancel' above]⟩
  constructor
  · -- else an item of the left list would be before and behind one of the right list
    by_contra behind
    have low := cut.leftFirst _ (taken left toLeft (by omega) (by omega)) _
      (dropped right atRight (by omega) (by omega))
    have high := other.rightFirst _ (taken right atRight (by omega) (by omega)) _
      (dropped left toLeft (by omega) (by omega))
    omega
  · by_contra behind
    have low := other.leftFirst _ (taken left atLeft (by omega) (by omega)) _
      (dropped right toRight (by omega) (by omega))
    have high := cut.rightFirst _ (taken right toRight (by omega) (by omega)) _
      (dropped left atLeft (by omega) (by omega))
    omega

/-- A cut of the lists turned round is one of the lists, counted from their other ends. -/
theorem IsCut.of_turned {fromLeft fromRight : Nat}
    (cut : IsCut (fun x => - rank x) right.reverse left.reverse fromLeft fromRight)
    : IsCut rank left right (left.length - fromRight) (right.length - fromLeft) := by
  obtain ⟨leftFirst, rightFirst⟩ := cut
  simp only [List.take_reverse, List.drop_reverse, List.mem_reverse] at leftFirst rightFirst
  constructor
  · intro x member y listed
    exact Int.le_of_neg_le_neg (leftFirst y listed x member)
  · intro y member x listed
    exact Int.lt_of_neg_lt_neg (rightFirst x listed y member)

-----------------------------------------------------------------------------------------
-- Merging from both ends
-----------------------------------------------------------------------------------------

/-- A list in three parts. -/
theorem take_append_take_append_drop (list : List α) (before between : Nat)
    : list.take before ++ ((list.drop before).take between ++ list.drop (before + between))
      = list := by
  rw [← List.drop_drop, List.take_append_drop, List.take_append_drop]

/-- What is taken from the backs are the last items of both lists. -/
theorem takeBack_perm (precedes : α → α → Bool) (count : Nat) (left right : List α)
    : (takeBack precedes count left right).items.reverse.Perm
        (left.drop (left.length - (takeBack precedes count left right).fromRight)
          ++ right.drop (right.length - (takeBack precedes count left right).fromLeft)) := by
  have taken := takeFront_perm (fun x y => precedes y x) count right.reverse left.reverse
  rw [List.take_reverse, List.take_reverse, ← List.reverse_append] at taken
  exact (List.reverse_perm _).trans (taken.trans (List.reverse_perm _))

/-- The parts of two lists, taken part by part. -/
theorem parts_perm (xs ys zs xs' ys' zs' : List α)
    : (xs ++ xs' ++ ys ++ ys' ++ (zs ++ zs')).Perm ((xs ++ (ys ++ zs)) ++ (xs' ++ (ys' ++ zs'))) := by
  classical
  rw [List.perm_iff_count]
  intro item
  simp only [List.count_append]
  omega

/-- A result has the items of both lists. -/
theorem mergeFromEnds_perm (merged : mergeFromEnds precedes left right = some sorted)
    : sorted.Perm (left ++ right) := by
  have front := takeFront_perm precedes ((left.length + right.length) / 2) left right
  have back := takeBack_perm precedes ((left.length + right.length) / 2) left right
  unfold mergeFromEnds at merged
  dsimp only at merged
  split at merged
  case isFalse => cases merged
  case isTrue met =>
    obtain ⟨metLeft, metRight⟩ := met
    cases merged
    rw [← metLeft, ← metRight] at back
    refine (((front.append_right _).append_right _).append back).trans ?_
    refine (parts_perm ..).trans ?_
    rw [take_append_take_append_drop, take_append_take_append_drop]

/-- Parts of two lists are sorted part by part, if each part of one list goes before the next part of
the other one.
-/
theorem isSortOf_parts {xs ys zs xs' ys' zs' front between back : List α}
    (first : InOrder rank (xs ++ (ys ++ zs))) (second : InOrder rank (xs' ++ (ys' ++ zs')))
    (atFront : IsSortOf rank (xs ++ xs') front) (amid : IsSortOf rank (ys ++ ys') between)
    (atBack : IsSortOf rank (zs ++ zs') back)
    (leftFirst : ∀ x ∈ xs, ∀ y ∈ ys' ++ zs', rank x ≤ rank y)
    (rightFirst : ∀ y ∈ xs', ∀ x ∈ ys ++ zs, rank y < rank x)
    (leftThen : ∀ x ∈ ys, ∀ y ∈ zs', rank x ≤ rank y)
    (rightThen : ∀ y ∈ ys', ∀ x ∈ zs, rank y < rank x)
    : IsSortOf rank ((xs ++ (ys ++ zs)) ++ (xs' ++ (ys' ++ zs'))) (front ++ between ++ back) := by
  obtain ⟨-, restLeft, acrossLeft⟩ := List.pairwise_append.mp first
  obtain ⟨-, restRight, acrossRight⟩ := List.pairwise_append.mp second
  have amidLeft := (List.pairwise_append.mp restLeft).2.2
  have amidRight := (List.pairwise_append.mp restRight).2.2
  have exchanged : Exchanged rank ((xs ++ (ys ++ zs)) ++ (xs' ++ (ys' ++ zs')))
      ((xs ++ xs') ++ (ys ++ ys') ++ (zs ++ zs')) := by
    have early := ((Exchanged.swap _ _ fun x member y listed =>
      rightFirst y listed x member).append_left xs).append_right (ys' ++ zs')
    have late := ((Exchanged.swap _ _ fun x member y listed =>
      rightThen y listed x member).append_left (xs ++ xs' ++ ys)).append_right zs'
    simp only [List.append_assoc] at early late ⊢
    exact early.trans late
  simp only [List.forall_mem_append] at acrossLeft acrossRight leftFirst rightFirst
  refine .of_exchanged exchanged ((atFront.append amid ?_).append atBack ?_)
  · simp only [List.forall_mem_append]
    exact ⟨fun x member => ⟨(acrossLeft x member).1, (leftFirst x member).1⟩,
      fun y member => ⟨fun x listed => Int.le_of_lt ((rightFirst y member).1 x listed),
        (acrossRight y member).1⟩⟩
  · simp only [List.forall_mem_append]
    refine ⟨⟨fun x member => ⟨(acrossLeft x member).2, (leftFirst x member).2⟩,
      fun y member => ⟨fun x listed => Int.le_of_lt ((rightFirst y member).2 x listed),
        (acrossRight y member).2⟩⟩, ?_⟩
    exact ⟨fun x member => ⟨amidLeft x member, leftThen x member⟩,
      fun y member => ⟨fun x listed => Int.le_of_lt (rightThen y member x listed),
        amidRight y member⟩⟩

/-- An odd item is all that is left to two lists between their ends. -/
theorem oddItem_spec {length fromLeft fromRight leftEnd rightEnd : Nat} (inLeft : fromLeft ≤ leftEnd)
    (inRight : fromRight ≤ rightEnd) (front : fromLeft + fromRight = length / 2)
    (back : leftEnd + rightEnd = length - length / 2)
    : fromLeft + (oddItem length fromLeft leftEnd).1 = leftEnd
      ∧ fromRight + (oddItem length fromLeft leftEnd).2 = rightEnd
      ∧ (oddItem length fromLeft leftEnd).1 + (oddItem length fromLeft leftEnd).2 ≤ 1 := by
  unfold oddItem
  split
  · dsimp only
    omega
  · split
    · dsimp only
      omega
    · dsimp only
      omega

/-- A number of items taken from the fronts of two lists in order. -/
structure IsFront (rank : α → Int) (left right : List α) (count : Nat) (taken : Taken α)
    : Prop where
  inLeft : taken.fromLeft ≤ left.length
  inRight : taken.fromRight ≤ right.length
  total : taken.fromLeft + taken.fromRight = count
  cut : IsCut rank left right taken.fromLeft taken.fromRight
  sort : IsSortOf rank (left.take taken.fromLeft ++ right.take taken.fromRight) taken.items

/-- A number of items taken from the backs of two lists in order, the last one first. -/
structure IsBack (rank : α → Int) (left right : List α) (count : Nat) (taken : Taken α)
    : Prop where
  inLeft : taken.fromRight ≤ left.length
  inRight : taken.fromLeft ≤ right.length
  total : taken.fromLeft + taken.fromRight = count
  cut : IsCut rank left right (left.length - taken.fromRight) (right.length - taken.fromLeft)
  sort : IsSortOf rank
    (left.drop (left.length - taken.fromRight) ++ right.drop (right.length - taken.fromLeft))
    taken.items.reverse

theorem isFront_takeFront (count : Nat) (ranked : IsRanked rank precedes (left ++ right))
    (first : InOrder rank left) (second : InOrder rank right)
    (enoughLeft : count ≤ left.length) (enoughRight : count ≤ right.length)
    : IsFront rank left right count (takeFront precedes count left right) where
  inLeft := fromLeft_le precedes count left right
  inRight := fromRight_le precedes count left right
  total := fromLeft_add_fromRight enoughLeft enoughRight
  cut := isCut_takeFront count ranked first second
  sort := isSortOf_takeFront count ranked first second

theorem isBack_takeBack (ranked : IsRanked rank precedes (left ++ right))
    (first : InOrder rank left) (second : InOrder rank right)
    (enoughLeft : count ≤ left.length) (enoughRight : count ≤ right.length)
    : IsBack rank left right count (takeBack precedes count left right) := by
  have front := isFront_takeFront count ranked.turned_append second.turned first.turned
    (by simpa using enoughRight) (by simpa using enoughLeft)
  refine ⟨?_, ?_, front.total, front.cut.of_turned, ?_⟩
  · simpa [takeBack] using front.inRight
  · simpa [takeBack] using front.inLeft
  · simpa [takeBack, List.take_reverse] using front.sort.of_turned

/-- The two ends meet, with at most one item between them. -/
theorem IsFront.meets {taken takenBack : Taken α}
    (front : IsFront rank left right ((left.length + right.length) / 2) taken)
    (back : IsBack rank left right ((left.length + right.length) / 2) takenBack)
    : let odd := oddItem (left.length + right.length) taken.fromLeft
        (left.length - takenBack.fromRight)
      taken.fromLeft + odd.1 = left.length - takenBack.fromRight
      ∧ taken.fromRight + odd.2 = right.length - takenBack.fromLeft
      ∧ odd.1 + odd.2 ≤ 1 := by
  have := front.total
  have := back.total
  have := back.inLeft
  have := back.inRight
  obtain ⟨atLeft, atRight⟩ := front.cut.le back.cut (by omega) front.inLeft front.inRight
    (Nat.sub_le ..) (Nat.sub_le ..)
  exact oddItem_spec atLeft atRight (by omega) (by omega)

theorem inOrder_of_length_le_one (few : items.length ≤ 1) : InOrder rank items :=
  match items, few with
  | [], _ => .nil
  | [x], _ => List.pairwise_singleton _ x

/-- The items of a list from one place on are the next few and those behind them. -/
theorem take_append_drop_add (list : List α) (before between : Nat)
    : (list.drop before).take between ++ list.drop (before + between) = list.drop before := by
  rw [← List.drop_drop, List.take_append_drop]

theorem take_drop_subset_take (list : List α) (before between : Nat)
    : (list.drop before).take between ⊆ list.take (before + between) := by
  rw [List.take_drop]
  exact fun _ => List.mem_of_mem_drop

/-- Two lists in order that hold at least half of all items each, rounded down, are merged from both
ends to the stable order of their items.
-/
theorem exists_mergeFromEnds (ranked : IsRanked rank precedes (left ++ right))
    (first : InOrder rank left) (second : InOrder rank right)
    (enoughLeft : (left.length + right.length) / 2 ≤ left.length)
    (enoughRight : (left.length + right.length) / 2 ≤ right.length)
    : ∃ sorted, mergeFromEnds precedes left right = some sorted
      ∧ IsSortOf rank (left ++ right) sorted := by
  have front := isFront_takeFront _ ranked first second enoughLeft enoughRight
  have back := isBack_takeBack ranked first second enoughLeft enoughRight
  obtain ⟨metLeft, metRight, few⟩ := front.meets back
  unfold mergeFromEnds
  dsimp only
  rw [if_pos ⟨metLeft, metRight⟩]
  generalize takeFront precedes _ left right = taken at *
  generalize takeBack precedes _ left right = takenBack at *
  generalize oddItem _ _ _ = odd at *
  have cut := front.cut
  have cutBack := back.cut
  have atBack := back.sort
  rw [← metLeft, ← metRight] at cutBack atBack
  have partsLeft := take_append_take_append_drop left taken.fromLeft odd.1
  have partsRight := take_append_take_append_drop right taken.fromRight odd.2
  have amid : InOrder rank
      ((left.drop taken.fromLeft).take odd.1 ++ (right.drop taken.fromRight).take odd.2) := by
    refine inOrder_of_length_le_one ?_
    simp only [List.length_append, List.length_take]
    omega
  refine ⟨_, rfl, ?_⟩
  have whole := isSortOf_parts (by rwa [partsLeft]) (by rwa [partsRight]) front.sort
    (isSortOf_self amid) atBack ?_ ?_ ?_ ?_
  · rw [partsLeft, partsRight] at whole
    simpa [List.append_assoc] using whole
  · rw [take_append_drop_add]
    exact cut.leftFirst
  · rw [take_append_drop_add]
    exact cut.rightFirst
  · exact fun x member => cutBack.leftFirst x (take_drop_subset_take left _ _ member)
  · exact fun y member => cutBack.rightFirst y (take_drop_subset_take right _ _ member)

-----------------------------------------------------------------------------------------
-- Blocks
-----------------------------------------------------------------------------------------

theorem sortHalf_perm (precedes : α → α → Bool) (blockLength : Nat) (half : List α)
    : (sortHalf precedes blockLength half).Perm half := by
  unfold sortHalf
  split
  · next w x y z rest =>
      split
      · exact (insertAll_perm precedes _ rest).trans
          ((sortFour_perm precedes w x y z).append_right rest)
      · exact insertionSort_perm precedes _
  · exact insertionSort_perm precedes half

theorem isSortOf_sortHalf {half : List α} (ranked : IsRanked rank precedes half) (blockLength : Nat)
    : IsSortOf rank half (sortHalf precedes blockLength half) := by
  unfold sortHalf
  split
  · next w x y z rest =>
      split
      · exact isSortOf_insertAll [w, x, y, z] ranked
          (isSortOf_sortFour (ranked.mono (List.subset_append_left [w, x, y, z] rest)))
      · exact isSortOf_insertionSort ranked
  · exact isSortOf_insertionSort ranked

theorem isPermuting_sortBlock (precedes : α → α → Bool) : IsPermuting (sortBlock precedes) := by
  intro items sorted sort
  unfold sortBlock at sort
  split at sort
  · cases sort
    exact .refl _
  · refine (mergeFromEnds_perm sort).trans ?_
    refine ((sortHalf_perm precedes _ _).append (sortHalf_perm precedes _ _)).trans ?_
    rw [List.take_append_drop]

/-- A block whose order is that of ranks is sorted. -/
theorem isSorting_sortBlock (rank : α → Int) (precedes : α → α → Bool)
    : IsSorting rank precedes (sortBlock precedes) := by
  intro items ranked
  unfold sortBlock
  split
  · next few => exact ⟨items, rfl, isSortOf_self (inOrder_of_length_le_one (Nat.le_of_lt_succ few))⟩
  · have halves : items.take (items.length / 2) ++ items.drop (items.length / 2) = items :=
      List.take_append_drop ..
    have front := isSortOf_sortHalf
      (ranked.mono (List.take_subset (items.length / 2) items)) items.length
    have back := isSortOf_sortHalf
      (ranked.mono (List.drop_subset (items.length / 2) items)) items.length
    have exchanged := front.exchanged.append back.exchanged
    rw [halves] at exchanged
    have lengthFront := front.exchanged.perm.length_eq
    have lengthBack := back.exchanged.perm.length_eq
    rw [List.length_take] at lengthFront
    rw [List.length_drop] at lengthBack
    obtain ⟨sorted, merged, sort⟩ := exists_mergeFromEnds (ranked.mono exchanged.perm.subset)
      front.ordered back.ordered (by omega) (by omega)
    exact ⟨sorted, merged, .of_exchanged exchanged sort⟩

end RecordQuery.StableSort
