import Mathlib.Data.List.FinRange
import RecordQuery.Proofs.Query.KeyOrder

/-! Sorted records as an arrangement of the places where they stood. The order of the keys decides
which place comes first, and the smaller place does where the records tie on every key. Where the
order is transitive there is one such arrangement of the records, and sorting gives it.
-/

namespace RecordQuery.SortKey

/-- The places of some records in the order of the keys, each place once. No place stands behind one
whose record it precedes, and places whose records tie on every key stand as they were.
-/
structure IsArrangement (keys : List SortKey) (records : List Json)
    (places : List (Fin records.length))
    : Prop where
  once : places.Perm (List.finRange records.length)
  ordered : places.Pairwise (fun i j => ¬ Precedes keys (records.get j) (records.get i))
  stable : places.Pairwise (fun i j => AreTied keys (records.get i) (records.get j) → i < j)

variable {keys : List SortKey} {records : List Json}

-----------------------------------------------------------------------------------------
-- An arrangement gives the stable order
-----------------------------------------------------------------------------------------

/-- Places in one class of tied records are arranged as they were. -/
theorem IsArrangement.filter_ties {places : List (Fin records.length)} {x : Json}
    (transitive : IsTransitiveOn keys records) (arranged : IsArrangement keys records places)
    (member : x ∈ records)
    : places.filter (ties keys x ∘ records.get)
      = (List.finRange records.length).filter (ties keys x ∘ records.get) := by
  have increasing : (places.filter (ties keys x ∘ records.get)).Pairwise (· < ·) := by
    refine (arranged.stable.filter _).imp_of_mem (fun left right smaller => smaller ?_)
    have first := (List.mem_filter.mp left).2
    have second := (List.mem_filter.mp right).2
    exact ties_iff_areTied.mp
      (transitive.ties member (List.getElem_mem _) (List.getElem_mem _) first second)
  have natural : ((List.finRange records.length).filter (ties keys x ∘ records.get)).Pairwise
      (· < ·) :=
    (List.pairwise_lt_finRange _).filter _
  -- both hold the same places, and both in ascending order
  exact (arranged.once.filter _).eq_of_pairwise
    (fun _ _ _ _ less greater => absurd less (Fin.lt_asymm greater)) increasing natural

theorem IsArrangement.isStableOrder {places : List (Fin records.length)}
    (transitive : IsTransitiveOn keys records) (arranged : IsArrangement keys records places)
    : IsStableOrder keys records (places.map records.get) := by
  have whole := List.map_get_finRange records
  refine ⟨?_, ?_, fun x member => ?_⟩
  · exact (arranged.once.map records.get).trans (.of_eq whole)
  · refine List.pairwise_map.mpr (arranged.ordered.imp (fun follows => ?_))
    exact isLE_compareAll_iff.mpr follows
  · rw [List.filter_map, arranged.filter_ties transitive member, ← List.filter_map, whole]

-----------------------------------------------------------------------------------------
-- There is an arrangement
-----------------------------------------------------------------------------------------

/-- The order of the places by the keys, and by place where the records tie. -/
def compareStably (keys : List SortKey) (records : List Json)
    : Fin records.length → Fin records.length → Ordering :=
  compareLex (comparePlaces keys records) Ord.compare

theorem isLE_compareStably_iff {i j : Fin records.length}
    : (compareStably keys records i j).isLE
      ↔ ¬ Precedes keys (records.get j) (records.get i)
        ∧ (AreTied keys (records.get i) (records.get j) → i ≤ j) := by
  have smaller : (Ord.compare i j).isLE ↔ i ≤ j := Nat.isLE_compare
  rw [compareStably, compareLex, isLE_then_iff, smaller, comparePlaces, isLE_compareAll_iff,
    ← ties_iff_areTied, ties, decide_eq_true_iff]

theorem transCmp_compareStably (transitive : IsTransitiveOn keys records)
    : Std.TransCmp (compareStably keys records) := by
  have := isTransitiveOn_iff.mp transitive
  exact inferInstanceAs (Std.TransCmp (compareLex (comparePlaces keys records) Ord.compare))

/-- The places of some records, sorted by the keys. -/
def arrange (keys : List SortKey) (records : List Json) : List (Fin records.length) :=
  (List.finRange records.length).mergeSort (fun i j => (compareStably keys records i j).isLE)

theorem isArrangement_arrange (transitive : IsTransitiveOn keys records)
    : IsArrangement keys records (arrange keys records) := by
  have := transCmp_compareStably transitive
  have once : (arrange keys records).Perm (List.finRange records.length) :=
    List.mergeSort_perm _ _
  have total (i j : Fin records.length)
      : ((compareStably keys records i j).isLE || (compareStably keys records j i).isLE)
        = true := by
    rw [Bool.or_eq_true, or_iff_not_imp_left]
    intro behind
    exact Ordering.isLE_of_eq_lt (Std.OrientedCmp.lt_of_not_isLE behind)
  have sorted := List.pairwise_mergeSort (fun _ _ _ => Std.TransCmp.isLE_trans) total
    (List.finRange records.length)
  have distinct : (arrange keys records).Nodup := once.nodup_iff.mpr (List.nodup_finRange _)
  refine ⟨once, sorted.imp (fun low => ?_), (sorted.and distinct).imp (fun low tied => ?_)⟩
  · exact (isLE_compareStably_iff.mp low).1
  · exact lt_of_le_of_ne ((isLE_compareStably_iff.mp low.1).2 tied) low.2

/-- Sorting comes to a result wherever the order of the keys is transitive on the records, as it is
where each key meets numbers that can be compared, and gives their one stable arrangement. No keys
leave the records as they are.
-/
theorem sort_eq_iff_isArrangement (keys : List SortKey) (records : List Json)
    : ((∀ key ∈ keys, key.HasComparableNumbers records) → IsTransitiveOn keys records)
      ∧ (IsTransitiveOn keys records → (∃ sorted, sort keys records = some sorted)
        ∧ ∀ sorted, sort keys records = some sorted
          ↔ ∃ places, IsArrangement keys records places ∧ places.map records.get = sorted)
      ∧ sort [] records = some records := by
  refine ⟨fun comparable => ?_, fun transitive => ⟨?_, fun sorted => ?_⟩, rfl⟩
  · exact isTransitiveOn_of_forall fun key member => (comparable key member).isTransitiveOn
  · obtain ⟨sorted, sort, _⟩ := exists_sort transitive
    exact ⟨sorted, sort⟩
  · rw [sort_eq_some_iff transitive]
    constructor
    · intro stable
      have arranged := isArrangement_arrange transitive
      exact ⟨_, arranged, (arranged.isStableOrder transitive).eq transitive stable⟩
    · rintro ⟨places, arranged, rfl⟩
      exact arranged.isStableOrder transitive

/-- Records by rank downwards and then by name: a string before numbers, an absent rank last, and
the integer 1 and the double 1, which tie, as they stood.
-/
theorem sort_eq_iff_isArrangement_ranks
    : sort
        [⟨⟨"rank", rfl, by decide⟩, .descending⟩, ⟨⟨"name", rfl, by decide⟩, .ascending⟩]
        [.object [("name", .string "a"), ("rank", .number (.int 1 (by decide)))],
          .object [("name", .string "x")],
          .object [("name", .string "a"), ("rank", .number (.double (.ofInt 1 (by decide))))],
          .object [("name", .string "c"), ("rank", .string "first")]]
      = some
        [.object [("name", .string "c"), ("rank", .string "first")],
          .object [("name", .string "a"), ("rank", .number (.int 1 (by decide)))],
          .object [("name", .string "a"), ("rank", .number (.double (.ofInt 1 (by decide))))],
          .object [("name", .string "x")]] := by
  have whole := sort_eq_iff_isArrangement
    [⟨⟨"rank", rfl, by decide⟩, .descending⟩, ⟨⟨"name", rfl, by decide⟩, .ascending⟩]
    [.object [("name", .string "a"), ("rank", .number (.int 1 (by decide)))],
      .object [("name", .string "x")],
      .object [("name", .string "a"), ("rank", .number (.double (.ofInt 1 (by decide))))],
      .object [("name", .string "c"), ("rank", .string "first")]]
  refine ((whole.2.1 (whole.1 ?_)).2 _).mpr ⟨[3, 0, 2, 1], ⟨?_, ?_, ?_⟩, rfl⟩
  · intro key listed
    refine .inr (fun record member m inRange found => ?_)
    simp only [List.mem_cons, List.not_mem_nil, or_false] at member listed
    rcases listed with rfl | rfl <;> rcases member with rfl | rfl | rfl | rfl <;> cases found
    decide
  · decide
  · decide +kernel
  · decide +kernel

end RecordQuery.SortKey
