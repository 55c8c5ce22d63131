import RecordQuery.Proofs.StableSort.TwoEnds

/-! Sorting by splitting at a pivot. What precedes the pivot goes to the front and the rest to the
back, each part as it stood; where nothing precedes it, all that ties with it goes to the front
sorted.
-/

namespace RecordQuery.StableSort

variable {α : Type} {rank : α → Int} {precedes : α → α → Bool} {items sorted : List α}
  {whenStuck : List α → Option (List α)}

theorem getD_mem (first : α) (rest : List α) (place : Nat)
    : (first :: rest).getD place first ∈ first :: rest := by
  rw [List.getD_eq_getElem?_getD]
  cases found : (first :: rest)[place]? with
  | none => exact List.mem_cons_self
  | some item => exact List.mem_of_getElem? found

theorem mem_of_pivot? {pivot : α} (chosen : pivot? precedes items = some pivot) : pivot ∈ items := by
  cases items with
  | nil => cases chosen
  | cons first rest =>
      cases chosen
      exact getD_mem first rest _

theorem exists_pivot? (precedes : α → α → Bool) (long : ¬ items.length ≤ maxBlock)
    : ∃ pivot, pivot? precedes items = some pivot := by
  cases items with
  | nil => exact absurd (Nat.zero_le maxBlock) long
  | cons first rest => exact ⟨_, rfl⟩

theorem filter_not_append_perm (p : α → Bool) (items : List α)
    : (items.filter (fun item => !p item) ++ items.filter p).Perm items :=
  List.perm_append_comm.trans (List.filter_append_perm p items)

/-- A result has all items, by induction on how often the list may still be split. -/
theorem isPermuting_splitSort (stuck : IsPermuting whenStuck) (limit : Nat) (floor : Option α)
    : IsPermuting (splitSort precedes whenStuck limit floor) := by
  intro items sorted sort
  induction limit generalizing floor items sorted with
  | zero =>
      unfold splitSort at sort
      split at sort
      · exact isPermuting_sortBlock precedes sort
      · exact stuck sort
  | succ limit ih =>
      unfold splitSort at sort
      split at sort
      · exact isPermuting_sortBlock precedes sort
      · obtain ⟨pivot, chosen, split⟩ := Option.bind_eq_some_iff.mp sort
        dsimp only at split
        split at split
        · obtain ⟨above, sortAbove, whole⟩ := Option.bind_eq_some_iff.mp split
          cases whole
          exact ((ih none sortAbove).append_left _).trans (filter_not_append_perm _ items)
        · obtain ⟨above, sortAbove, split⟩ := Option.bind_eq_some_iff.mp split
          obtain ⟨below, sortBelow, whole⟩ := Option.bind_eq_some_iff.mp split
          cases whole
          exact ((ih floor sortBelow).append (ih _ sortAbove)).trans
            (List.filter_append_perm _ items)

-----------------------------------------------------------------------------------------
-- Splitting where the order is that of ranks
-----------------------------------------------------------------------------------------

/-- What ties with a pivot that no item goes before is split off in order. -/
theorem isSortOf_append_above {pivot : α} {above : List α} (ranked : IsRanked rank precedes items)
    (listed : pivot ∈ items) (least : ∀ x ∈ items, rank pivot ≤ rank x)
    (sort : IsSortOf rank (items.filter (precedes pivot)) above)
    : IsSortOf rank items (items.filter (!precedes pivot ·) ++ above) := by
  have tied : ∀ x ∈ items.filter (!precedes pivot ·), rank x = rank pivot := by
    intro x member
    obtain ⟨member, notAbove⟩ := List.mem_filter.mp member
    rw [ranked pivot listed x member] at notAbove
    have := least x member
    simp at notAbove
    omega
  have higher : ∀ x ∈ items.filter (precedes pivot), rank pivot < rank x := by
    intro x member
    obtain ⟨member, isAbove⟩ := List.mem_filter.mp member
    rwa [ranked pivot listed x member, decide_eq_true_iff] at isAbove
  have exchanged : Exchanged rank items
      (items.filter (!precedes pivot ·) ++ items.filter (precedes pivot)) := by
    have lower : ∀ x ∈ items, (!precedes pivot x) → ∀ y ∈ items, ¬ (!precedes pivot y)
        → rank x < rank y := by
      intro x member notAbove y listed isAbove
      have first := tied x (List.mem_filter.mpr ⟨member, notAbove⟩)
      have second := higher y (List.mem_filter.mpr ⟨listed, by simpa using isAbove⟩)
      omega
    simpa using Exchanged.filter_append lower
  refine .of_exchanged exchanged ((isSortOf_self ?_).append sort fun x member y listed => ?_)
  · refine List.pairwise_of_forall_mem_list fun x member y listed => ?_
    exact Int.le_of_eq ((tied x member).trans (tied y listed).symm)
  · rw [tied x member]
    exact Int.le_of_lt (higher y listed)

/-- What goes before a pivot is split from the rest. -/
theorem isSortOf_below_append {pivot : α} {below above : List α}
    (ranked : IsRanked rank precedes items) (listed : pivot ∈ items)
    (sortBelow : IsSortOf rank (items.filter (precedes · pivot)) below)
    (sortAbove : IsSortOf rank (items.filter (!precedes · pivot)) above)
    : IsSortOf rank items (below ++ above) := by
  have lower : ∀ x ∈ items, precedes x pivot → ∀ y ∈ items, ¬ precedes y pivot → rank x < rank y := by
    intro x first isBelow y second notBelow
    rw [ranked x first pivot listed, decide_eq_true_iff] at isBelow
    rw [ranked y second pivot listed, decide_eq_true_iff] at notBelow
    omega
  refine .of_exchanged (.filter_append lower)
    (sortBelow.append sortAbove fun x member y listed => Int.le_of_lt ?_)
  obtain ⟨first, isBelow⟩ := List.mem_filter.mp member
  obtain ⟨second, notBelow⟩ := List.mem_filter.mp listed
  exact lower x first isBelow y second (by simpa using notBelow)

/-- No item goes before a pivot that the floor does not precede, or that nothing precedes. -/
theorem le_of_atFloor {pivot : α} {floor : Option α}
    (ranked : IsRanked rank precedes (floor.toList ++ items))
    (low : ∀ x ∈ floor, ∀ y ∈ items, rank x ≤ rank y) (listed : pivot ∈ items)
    (atFloor : floor.any (fun floor => !precedes floor pivot)
      || (items.filter (precedes · pivot)).isEmpty)
    : ∀ x ∈ items, rank pivot ≤ rank x := by
  intro x member
  rcases Bool.or_eq_true_iff.mp atFloor with notAhead | noneBelow
  · obtain ⟨bound, given, notAhead⟩ := (Option.any_eq_true _ _).mp notAhead
    have order := ranked bound (by simp [given]) pivot (by simp [listed])
    have := low bound given x member
    simp only [order, Bool.not_eq_true', decide_eq_false_iff_not] at notAhead
    omega
  · have notBelow := List.filter_eq_nil_iff.mp (List.isEmpty_iff.mp noneBelow) x member
    rw [ranked x (List.mem_append_right _ member) pivot (List.mem_append_right _ listed),
      decide_eq_true_iff] at notBelow
    omega

/-- What does not precede a pivot is behind it or ties with it. -/
theorem le_of_mem_filter_not {pivot x : α} (ranked : IsRanked rank precedes items)
    (listed : pivot ∈ items) (member : x ∈ items.filter (!precedes · pivot))
    : rank pivot ≤ rank x := by
  obtain ⟨member, notBelow⟩ := List.mem_filter.mp member
  rw [ranked x member pivot listed] at notBelow
  simpa using notBelow

/-- Splitting sorts, by induction on how often the list may still be split. No item goes before the
floor.
-/
theorem exists_splitSort (stuck : IsSorting rank precedes whenStuck) (limit : Nat)
    (floor : Option α) (ranked : IsRanked rank precedes (floor.toList ++ items))
    (low : ∀ x ∈ floor, ∀ y ∈ items, rank x ≤ rank y)
    : ∃ sorted, splitSort precedes whenStuck limit floor items = some sorted
      ∧ IsSortOf rank items sorted := by
  have rankedItems := ranked.mono (List.subset_append_right floor.toList items)
  induction limit generalizing floor items with
  | zero =>
      unfold splitSort
      split
      · exact isSorting_sortBlock rank precedes rankedItems
      · exact stuck rankedItems
  | succ limit ih =>
      unfold splitSort
      split
      · exact isSorting_sortBlock rank precedes rankedItems
      · next long =>
          obtain ⟨pivot, chosen⟩ := exists_pivot? precedes long
          have listed := mem_of_pivot? chosen
          rw [chosen]
          dsimp only [Option.bind_eq_bind, Option.bind_some]
          split
          · next atFloor =>
              have within : items.filter (precedes pivot) ⊆ items := List.filter_subset_self _
              obtain ⟨above, sortAbove, sort⟩ := ih none (rankedItems.mono within) nofun
                (rankedItems.mono within)
              exact ⟨_, by rw [sortAbove]; rfl, isSortOf_append_above rankedItems listed
                (le_of_atFloor ranked low listed atFloor) sort⟩
          · have withinAbove : items.filter (!precedes · pivot) ⊆ items := List.filter_subset_self _
            have withinBelow : items.filter (precedes · pivot) ⊆ items := List.filter_subset_self _
            have rankedAbove : IsRanked rank precedes
                (pivot :: items.filter (!precedes · pivot)) :=
              rankedItems.mono (List.cons_subset.mpr ⟨listed, withinAbove⟩)
            have lowAbove : ∀ x ∈ some pivot, ∀ y ∈ items.filter (!precedes · pivot),
                rank x ≤ rank y := by
              rintro _ ⟨⟩ y member
              exact le_of_mem_filter_not rankedItems listed member
            obtain ⟨above, sortAbove, isSortAbove⟩ := ih (some pivot) rankedAbove
              lowAbove (rankedItems.mono withinAbove)
            obtain ⟨below, sortBelow, isSortBelow⟩ := ih floor
              (ranked.mono (List.append_subset.mpr ⟨List.subset_append_left ..,
                fun _ member => List.mem_append_right _ (withinBelow member)⟩))
              (fun x given y member => low x given y (withinBelow member))
              (rankedItems.mono withinBelow)
            refine ⟨below ++ above, by rw [sortAbove, sortBelow]; rfl, ?_⟩
            exact isSortOf_below_append rankedItems listed isSortBelow isSortAbove

end RecordQuery.StableSort
