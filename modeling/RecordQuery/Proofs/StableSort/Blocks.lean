import RecordQuery.Proofs.StableSort.Exchanges

/-! Sorting a block. Items are put in one after the other, four of them are sorted by comparing
pairs, and two sorted halves are merged from both ends. Whatever the order, a result has the items of
the block. Where the order is that of ranks, there is one place in each half up to which items have
been taken when a given number of them is, so the two ends meet.
-/

namespace RecordQuery.StableSort

variable {α : Type} {rank : α → Int} {precedes : α → α → Bool} {items sorted rest : List α}

-----------------------------------------------------------------------------------------
-- Putting in one item after the other
-----------------------------------------------------------------------------------------

theorem insertBehind_perm (precedes : α → α → Bool) (item : α) (held : List α)
    : (insertBehind precedes item held).Perm (item :: held) := by
  induction held with
  | nil => exact .refl _
  | cons last before ih =>
      unfold insertBehind
      split
      · exact (ih.cons last).trans (.swap item last before)
      · exact .refl _

theorem insertAll_cons (sorted rest : List α) (item : α)
    : insertAll precedes sorted (item :: rest)
      = insertAll precedes (insertBehind precedes item sorted.reverse).reverse rest := by
  rw [insertAll, List.foldl_cons, insertAll, List.reverse_reverse]

theorem insertAll_perm (precedes : α → α → Bool) (sorted rest : List α)
    : (insertAll precedes sorted rest).Perm (sorted ++ rest) := by
  induction rest generalizing sorted with
  | nil => simp [insertAll]
  | cons item rest ih =>
      rw [insertAll_cons]
      refine (ih _).trans ?_
      rw [List.append_cons]
      refine List.Perm.append_right rest ?_
      calc (insertBehind precedes item sorted.reverse).reverse
        _ |>.Perm (item :: sorted.reverse) :=
          (List.reverse_perm _).trans (insertBehind_perm precedes item _)
        _ |>.Perm (item :: sorted) := (List.reverse_perm sorted).cons item
        _ |>.Perm (sorted ++ [item]) := (List.perm_append_singleton item sorted).symm

/-- An item is put in by exchanging it with those that it precedes. -/
theorem exchanged_insertBehind {item : α} {held : List α}
    (ranked : IsRanked rank precedes (item :: held))
    : Exchanged rank (held.reverse ++ [item]) (insertBehind precedes item held).reverse := by
  induction held with
  | nil => exact .refl _
  | cons last before ih =>
      have order := ranked item List.mem_cons_self last (.tail _ List.mem_cons_self)
      unfold insertBehind
      split
      · next ahead =>
          rw [order, decide_eq_true_iff] at ahead
          have fewer : IsRanked rank precedes (item :: before) :=
            ranked.mono (List.cons_subset_cons item (List.subset_cons_self last before))
          rw [List.reverse_cons, List.reverse_cons, List.append_assoc]
          exact .trans (.append_left before.reverse (.here [] ahead)) <| by
            simpa using (ih fewer).append_right [last]
      · rw [List.reverse_cons, List.reverse_cons, List.reverse_cons]
        exact .refl _

theorem inOrder_insertBehind {item : α} {held : List α}
    (ranked : IsRanked rank precedes (item :: held)) (ordered : InOrder rank held.reverse)
    : InOrder rank (insertBehind precedes item held).reverse := by
  unfold InOrder at ordered ⊢
  rw [List.pairwise_reverse] at ordered ⊢
  induction held with
  | nil => exact List.pairwise_singleton _ _
  | cons last before ih =>
      have order := ranked item List.mem_cons_self last (.tail _ List.mem_cons_self)
      obtain ⟨below, others⟩ := List.pairwise_cons.mp ordered
      unfold insertBehind
      split
      · next ahead =>
          rw [order, decide_eq_true_iff] at ahead
          have fewer : IsRanked rank precedes (item :: before) :=
            ranked.mono (List.cons_subset_cons item (List.subset_cons_self last before))
          refine List.pairwise_cons.mpr ⟨fun x member => ?_, ih fewer others⟩
          rcases List.mem_cons.mp ((insertBehind_perm precedes item before).mem_iff.mp member)
            with rfl | member
          · exact Int.le_of_lt ahead
          · exact below x member
      · next behind =>
          rw [order, decide_eq_true_iff, Int.not_lt] at behind
          refine List.pairwise_cons.mpr ⟨fun x member => ?_, ordered⟩
          rcases List.mem_cons.mp member with rfl | member
          · exact behind
          · exact Int.le_trans (below x member) behind

/-- All items are put in, by induction on those that are left. -/
theorem isSortOf_insertAll (items : List α) (ranked : IsRanked rank precedes (items ++ rest))
    (sort : IsSortOf rank items sorted)
    : IsSortOf rank (items ++ rest) (insertAll precedes sorted rest) := by
  induction rest generalizing items sorted with
  | nil => simpa [insertAll] using sort
  | cons item rest ih =>
      have within : item :: sorted.reverse ⊆ items ++ item :: rest := by
        intro x member
        rcases List.mem_cons.mp member with rfl | member
        · exact List.mem_append_right _ List.mem_cons_self
        · exact List.mem_append_left _
            (sort.exchanged.perm.mem_iff.mp (List.mem_reverse.mp member))
      have here := ranked.mono within
      rw [insertAll_cons, List.append_cons]
      refine ih _ (ranked.mono (by simp)) ⟨.trans (sort.exchanged.append_right [item]) ?_, ?_⟩
      · simpa using exchanged_insertBehind here
      · exact inOrder_insertBehind here (by simpa using sort.ordered)

theorem insertionSort_perm (precedes : α → α → Bool) (items : List α)
    : (insertionSort precedes items).Perm items :=
  insertAll_perm precedes [] items

theorem isSortOf_insertionSort (ranked : IsRanked rank precedes items)
    : IsSortOf rank items (insertionSort precedes items) :=
  isSortOf_insertAll [] ranked (isSortOf_self .nil)

-----------------------------------------------------------------------------------------
-- Four items
-----------------------------------------------------------------------------------------

/-- Two items are exchanged or not. -/
theorem sortTwo_perm (precedes : α → α → Bool) (x y : α)
    : [(sortTwo precedes x y).1, (sortTwo precedes x y).2].Perm [x, y] := by
  unfold sortTwo
  split
  · exact .swap x y []
  · exact .refl _

theorem isSortOf_sortTwo {x y : α} (order : precedes y x = decide (rank y < rank x))
    : IsSortOf rank [x, y] [(sortTwo precedes x y).1, (sortTwo precedes x y).2] := by
  unfold sortTwo
  rw [order]
  split
  · next behind =>
      have behind := of_decide_eq_true behind
      exact ⟨.here [] behind, by simp [InOrder, Int.le_of_lt behind]⟩
  · next ahead =>
      refine isSortOf_self ?_
      simpa [InOrder] using ahead

theorem mergePairs_perm (precedes : α → α → Bool) (a b c d : α)
    : (mergePairs precedes a b c d).Perm [a, b, c, d] := by
  have between (first x y last : α)
      : [first, (sortTwo precedes x y).1, (sortTwo precedes x y).2, last].Perm
          [first, x, y, last] :=
    ((sortTwo_perm precedes x y).append_right [last]).cons first
  have lastBack : [a, c, d, b].Perm [a, b, c, d] :=
    (@List.perm_append_comm α [c, d] [b]).cons a
  unfold mergePairs
  cases precedes c a <;> cases precedes d b
  · exact between a b c d
  · exact (between a c d b).trans lastBack
  · exact (between c a b d).trans
      ((@List.perm_append_comm α [c] [a, b]).append_right [d])
  · exact (between c a d b).trans ((List.Perm.swap a c [d, b]).trans lastBack)

/-- Two items between two others are sorted by themselves. -/
theorem isSortOf_between {x y low high : α} (order : precedes y x = decide (rank y < rank x))
    (least : ∀ z ∈ [x, y, high], rank low ≤ rank z) (most : ∀ z ∈ [x, y], rank z ≤ rank high)
    : IsSortOf rank [low, x, y, high]
        [low, (sortTwo precedes x y).1, (sortTwo precedes x y).2, high] := by
  have front : IsSortOf rank [low] [low] := isSortOf_self (List.pairwise_singleton _ low)
  have back : IsSortOf rank [high] [high] := isSortOf_self (List.pairwise_singleton _ high)
  exact front.append ((isSortOf_sortTwo order).append back (by simpa using most))
    (by simpa using least)

/-- Two pairs in order become four items in order. -/
theorem isSortOf_mergePairs {a b c d : α} (ranked : IsRanked rank precedes [a, b, c, d])
    (first : rank a ≤ rank b) (second : rank c ≤ rank d)
    : IsSortOf rank [a, b, c, d] (mergePairs precedes a b c d) := by
  have memA : a ∈ [a, b, c, d] := by simp
  have memB : b ∈ [a, b, c, d] := by simp
  have memC : c ∈ [a, b, c, d] := by simp
  have memD : d ∈ [a, b, c, d] := by simp
  unfold mergePairs
  cases left : precedes c a <;> cases right : precedes d b <;>
    rw [ranked c memC a memA] at left <;> rw [ranked d memD b memB] at right <;>
    simp only [decide_eq_true_iff, decide_eq_false_iff_not, Int.not_lt] at left right
  · exact isSortOf_between (ranked c memC b memB) (by simp; omega) (by simp; omega)
  · -- the second item is the last of all
    refine .of_exchanged (.append_left [a] (.swap [b] [c, d] ?_))
      (isSortOf_between (ranked d memD c memC) ?_ ?_)
    · simp; omega
    · simp; omega
    · simp; omega
  · -- the third item is the first of all
    refine .of_exchanged (.append_right (.swap [a, b] [c] ?_) [d])
      (isSortOf_between (ranked b memB a memA) ?_ ?_)
    · simp; omega
    · simp; omega
    · simp; omega
  · refine .of_exchanged (.trans
      (.append_left [a] (.swap [b] [c, d] ?_)) (.here [d, b] left))
      (isSortOf_between (ranked d memD a memA) ?_ ?_)
    · simp; omega
    · simp; omega
    · simp; omega

theorem sortFour_perm (precedes : α → α → Bool) (w x y z : α)
    : (sortFour precedes w x y z).Perm [w, x, y, z] :=
  (mergePairs_perm precedes ..).trans
    ((sortTwo_perm precedes w x).append (sortTwo_perm precedes y z))

theorem isSortOf_sortFour {w x y z : α} (ranked : IsRanked rank precedes [w, x, y, z])
    : IsSortOf rank [w, x, y, z] (sortFour precedes w x y z) := by
  have first := isSortOf_sortTwo (ranked x (by simp) w (by simp))
  have second := isSortOf_sortTwo (ranked z (by simp) y (by simp))
  have pairs := first.exchanged.append second.exchanged
  refine .of_exchanged pairs (isSortOf_mergePairs ?_ ?_ ?_)
  · exact ranked.mono pairs.perm.subset
  · exact List.rel_of_pairwise_cons first.ordered List.mem_cons_self
  · exact List.rel_of_pairwise_cons second.ordered List.mem_cons_self

end RecordQuery.StableSort
