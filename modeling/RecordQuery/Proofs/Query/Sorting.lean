import RecordQuery.Proofs.Order.Transitivity
import RecordQuery.Proofs.StableSort.Joining
import RecordQuery.Query.Sorting

/-! Sorting records. Where the order of the keys is transitive on the records, it is that of their
ranks, so there is a result: the one order of them that follows the keys and keeps records that tie
in their place. Where it is not, there may be none, but what there is still has all the records.
-/

namespace RecordQuery.SortKey

/-- Records that no key tells apart. -/
def ties (keys : List SortKey) (x y : Json) : Bool :=
  compareAll keys x y = .eq

/-- The order of some keys is transitive on some records. -/
def IsTransitiveOn (keys : List SortKey) (records : List Json) : Prop :=
  ∀ x ∈ records, ∀ y ∈ records, ∀ z ∈ records,
    (compareAll keys x y).isLE → (compareAll keys y z).isLE → (compareAll keys x z).isLE

/-- The records in the order of the keys, with records that tie as they stood. -/
structure IsStableOrder (keys : List SortKey) (records sorted : List Json) : Prop where
  perm : sorted.Perm records
  ordered : sorted.Pairwise (fun x y => (compareAll keys x y).isLE)
  stable : ∀ x ∈ records, sorted.filter (ties keys x) = records.filter (ties keys x)

-----------------------------------------------------------------------------------------
-- Comparing by several keys
-----------------------------------------------------------------------------------------

instance (key : SortKey) : Std.OrientedCmp key.compare where
  eq_swap {x y} := by
    unfold compare
    cases key.direction with
    | ascending => exact @Std.OrientedCmp.eq_swap _ totalOrder _ _ _
    | descending => exact congrArg Ordering.swap (@Std.OrientedCmp.eq_swap _ totalOrder _ _ _)

instance (keys : List SortKey) : Std.OrientedCmp (compareAll keys) where
  eq_swap {x y} := by
    induction keys with
    | nil => rfl
    | cons key rest ih =>
        rw [compareAll, compareAll, Ordering.swap_then, ← ih, ← Std.OrientedCmp.eq_swap]

variable {keys : List SortKey} {records : List Json}

theorem ties_self (keys : List SortKey) (x : Json) : ties keys x x :=
  decide_eq_true Std.ReflCmp.compare_self

theorem compareAll_swap (keys : List SortKey) (x y : Json)
    : compareAll keys y x = (compareAll keys x y).swap :=
  Std.OrientedCmp.eq_swap

theorem isLE_of_ne_lt {x y : Json} (h : compareAll keys x y ≠ .lt)
    : (compareAll keys y x).isLE := by
  rw [compareAll_swap keys x y]
  cases order : compareAll keys x y with
  | lt => exact absurd order h
  | eq => rfl
  | gt => rfl

theorem isLE_of_ties {x y : Json} (h : ties keys x y) : (compareAll keys x y).isLE :=
  Ordering.isLE_of_eq_eq (of_decide_eq_true h)

theorem ties_symm {x y : Json} (h : ties keys x y) : ties keys y x :=
  decide_eq_true (Std.OrientedCmp.eq_symm (of_decide_eq_true h))

theorem IsTransitiveOn.mono {others : List Json}
    (transitive : IsTransitiveOn keys records) (within : ∀ x ∈ others, x ∈ records)
    : IsTransitiveOn keys others :=
  fun x first y second z third =>
    transitive x (within x first) y (within y second) z (within z third)

/-- Records that tie with a third one tie with each other. -/
theorem IsTransitiveOn.ties {x y z : Json} (transitive : IsTransitiveOn keys records)
    (first : x ∈ records) (second : y ∈ records) (third : z ∈ records)
    (left : SortKey.ties keys x y) (right : SortKey.ties keys x z)
    : SortKey.ties keys y z := by
  have low := transitive y second x first z third (isLE_of_ties (ties_symm left))
    (isLE_of_ties right)
  have high := transitive z third x first y second (isLE_of_ties (ties_symm right))
    (isLE_of_ties left)
  exact decide_eq_true (Std.OrientedCmp.isLE_antisymm low high)

-----------------------------------------------------------------------------------------
-- Ranks of records
-----------------------------------------------------------------------------------------

/-- The rank of a record among some records: how many of them precede it. -/
def rankAmong (keys : List SortKey) (records : List Json) (x : Json) : Int :=
  ((records.filter (fun z => precedes keys z x)).length : Nat)

/-- What precedes a record precedes all that are not ahead of it. -/
theorem IsTransitiveOn.precedes {x y z : Json} (transitive : IsTransitiveOn keys records)
    (first : x ∈ records) (second : y ∈ records) (third : z ∈ records)
    (ahead : compareAll keys x y = .lt) (low : (compareAll keys y z).isLE)
    : compareAll keys x z = .lt := by
  refine Classical.byContradiction fun behind => ?_
  have back := transitive y second z third x first low (isLE_of_ne_lt behind)
  rw [compareAll_swap keys x y, ahead] at back
  cases back

/-- The records that precede a record precede one that is not ahead of it as well. -/
theorem IsTransitiveOn.filter_precedes {x y : Json} (transitive : IsTransitiveOn keys records)
    (first : x ∈ records) (second : y ∈ records) (low : (compareAll keys x y).isLE)
    : records.filter (fun z => SortKey.precedes keys z x)
      = (records.filter (fun z => SortKey.precedes keys z y)).filter
          (fun z => SortKey.precedes keys z x) := by
  rw [List.filter_filter]
  refine List.filter_congr fun z third => ?_
  rw [Bool.eq_iff_iff, Bool.and_eq_true]
  refine ⟨fun ahead => ⟨ahead, decide_eq_true ?_⟩, And.left⟩
  exact transitive.precedes third first second (of_decide_eq_true ahead) low

/-- A transitive order of some records is that of their ranks among them. -/
theorem IsTransitiveOn.isRanked (transitive : IsTransitiveOn keys records)
    : StableSort.IsRanked (rankAmong keys records) (SortKey.precedes keys) records := by
  intro x first y second
  refine decide_eq_decide.mpr ⟨fun ahead => Int.ofNat_lt.mpr ?_, fun lower => ?_⟩
  · -- the first record is itself one that precedes the second one
    have itself : x ∈ records.filter (fun z => SortKey.precedes keys z y) :=
      List.mem_filter.mpr ⟨first, decide_eq_true ahead⟩
    rw [transitive.filter_precedes first second (Ordering.isLE_of_eq_lt ahead)]
    refine List.length_filter_lt_length_iff_exists.mpr ⟨x, itself, ?_⟩
    simp [SortKey.precedes, Std.ReflCmp.compare_self]
  · refine Classical.byContradiction fun behind => ?_
    have fewer := congrArg List.length
      (transitive.filter_precedes second first (isLE_of_ne_lt behind))
    have most := List.length_filter_le (fun z => SortKey.precedes keys z y)
      (records.filter (fun z => SortKey.precedes keys z x))
    rw [← fewer] at most
    exact absurd (Int.ofNat_lt.mp lower) (Nat.not_lt.mpr most)

theorem IsTransitiveOn.rankAmong_le_iff {x y : Json} (transitive : IsTransitiveOn keys records)
    (first : x ∈ records) (second : y ∈ records)
    : rankAmong keys records x ≤ rankAmong keys records y ↔ (compareAll keys x y).isLE := by
  have ahead : compareAll keys y x = .lt ↔ rankAmong keys records y < rankAmong keys records x :=
    decide_eq_decide.mp (transitive.isRanked y second x first)
  rw [← Int.not_lt, ← ahead, compareAll_swap keys x y]
  cases compareAll keys x y <;> decide

-----------------------------------------------------------------------------------------
-- Sorting
-----------------------------------------------------------------------------------------

/-- Without keys there is nothing to sort. -/
theorem sort_nil (records : List Json) : sort [] records = some records :=
  rfl

theorem sort_of_ne_nil (given : keys ≠ []) (records : List Json)
    : sort keys records = StableSort.sort (precedes keys) records :=
  if_neg (mt List.isEmpty_iff.mp given)

/-- What sorting leaves are the records, whatever the keys. -/
theorem sort_perm {sorted : List Json} (sort : sort keys records = some sorted)
    : sorted.Perm records := by
  by_cases none : keys = []
  · subst none
    cases sort
    exact .refl _
  · rw [sort_of_ne_nil none] at sort
    exact StableSort.sort_perm sort

theorem mem_of_sort {sorted : List Json} (sort : sort keys records = some sorted) {x : Json}
    : x ∈ sorted ↔ x ∈ records :=
  (sort_perm sort).mem_iff

/-- The stable order by ranks is the stable order of the records. -/
theorem isStableOrder_of_isSortOf {sorted : List Json} (transitive : IsTransitiveOn keys records)
    (isSort : StableSort.IsSortOf (rankAmong keys records) records sorted)
    : IsStableOrder keys records sorted := by
  have perm := isSort.exchanged.perm
  refine ⟨perm, ?_, fun x listed => ?_⟩
  · refine isSort.ordered.imp_of_mem fun first second => ?_
    exact (transitive.rankAmong_le_iff (perm.mem_iff.mp first) (perm.mem_iff.mp second)).mp
  · -- the records that tie with a record are of its rank
    have alike {y : Json} (member : y ∈ records) (tied : SortKey.ties keys x y)
        : rankAmong keys records x = rankAmong keys records y :=
      Int.le_antisymm ((transitive.rankAmong_le_iff listed member).mpr (isLE_of_ties tied))
        ((transitive.rankAmong_le_iff member listed).mpr (isLE_of_ties (ties_symm tied)))
    refine isSort.exchanged.filter fun y first z second left right => ?_
    exact (alike first left).symm.trans (alike second right)

/-- Where the order of the keys is transitive, records are sorted. -/
theorem exists_sort (transitive : IsTransitiveOn keys records)
    : ∃ sorted, sort keys records = some sorted ∧ IsStableOrder keys records sorted := by
  by_cases none : keys = []
  · subst none
    exact ⟨records, rfl, .refl _, List.pairwise_of_forall (fun _ _ => rfl), fun _ _ => rfl⟩
  · obtain ⟨sorted, sort, isSort⟩ := StableSort.exists_sort transitive.isRanked
    exact ⟨sorted, (sort_of_ne_nil none records).trans sort,
      isStableOrder_of_isSortOf transitive isSort⟩

-----------------------------------------------------------------------------------------
-- There is one stable order
-----------------------------------------------------------------------------------------

/-- Lists of the same records in order are the same list if records that tie stand in them in the
same order, by induction on the first list.
-/
theorem eq_of_filter_ties {left right : List Json} (transitive : IsTransitiveOn keys left)
    (perm : left.Perm right) (ordered : left.Pairwise (fun x y => (compareAll keys x y).isLE))
    (ordered' : right.Pairwise (fun x y => (compareAll keys x y).isLE))
    (same : ∀ x ∈ left, left.filter (ties keys x) = right.filter (ties keys x))
    : left = right := by
  induction left generalizing right with
  | nil => exact perm.nil_eq
  | cons x left ih =>
      cases right with
      | nil => exact absurd perm.length_eq (by simp)
      | cons y right =>
          have member : y ∈ x :: left := perm.mem_iff.mpr List.mem_cons_self
          have low : (compareAll keys x y).isLE := by
            rcases List.mem_cons.mp member with rfl | later
            · exact isLE_of_ties (ties_self keys y)
            · exact List.rel_of_pairwise_cons ordered later
          have high : (compareAll keys y x).isLE := by
            rcases List.mem_cons.mp (perm.mem_iff.mp List.mem_cons_self) with rfl | later
            · exact isLE_of_ties (ties_self keys x)
            · exact List.rel_of_pairwise_cons ordered' later
          have tied : ties keys x y := decide_eq_true (Std.OrientedCmp.isLE_antisymm low high)
          have first := same x List.mem_cons_self
          rw [List.filter_cons_of_pos (ties_self keys x), List.filter_cons_of_pos tied] at first
          obtain rfl := (List.cons.inj first).1
          refine congrArg (x :: ·) (ih ?_ perm.cons_inv ordered.tail ordered'.tail ?_)
          · exact transitive.mono fun _ later => List.mem_cons_of_mem _ later
          · intro z later
            have here := same z (List.mem_cons_of_mem _ later)
            rw [List.filter_cons, List.filter_cons] at here
            split at here
            · exact (List.cons.inj here).2
            · exact here

theorem IsStableOrder.eq {sorted other : List Json} (transitive : IsTransitiveOn keys records)
    (first : IsStableOrder keys records sorted) (second : IsStableOrder keys records other)
    : sorted = other := by
  refine eq_of_filter_ties (transitive.mono fun _ => first.perm.mem_iff.mp)
    (first.perm.trans second.perm.symm) first.ordered second.ordered (fun x member => ?_)
  have listed := first.perm.mem_iff.mp member
  rw [first.stable x listed, second.stable x listed]

/-- Sorting gives the one stable order where the order of the keys is transitive. -/
theorem sort_eq_some_iff {sorted : List Json} (transitive : IsTransitiveOn keys records)
    : sort keys records = some sorted ↔ IsStableOrder keys records sorted := by
  obtain ⟨found, sort, stable⟩ := exists_sort transitive
  rw [sort, Option.some_inj]
  exact ⟨fun same => same ▸ stable, fun other => stable.eq transitive other⟩

end RecordQuery.SortKey
