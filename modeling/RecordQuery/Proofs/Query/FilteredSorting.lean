import Mathlib.Data.List.Basic
import RecordQuery.Proofs.Filter.Keeping
import RecordQuery.Proofs.Query.Sorting

/-! Filtering before and after sorting. Whether a filter can be evaluated on all records does not
depend on their order, and the records that pass it stand in sorted order among all sorted records.
-/

namespace RecordQuery

namespace SortKey

variable {keys : List SortKey} {records sorted : List Json}

/-- Some of the records in stable order are those records in stable order. -/
theorem IsStableOrder.filter (stable : IsStableOrder keys records sorted) (p : Json → Bool)
    : IsStableOrder keys (records.filter p) (sorted.filter p) := by
  refine ⟨stable.perm.filter p, stable.ordered.filter p, fun x member => ?_⟩
  have listed : x ∈ records := (List.mem_filter.mp member).1
  rw [List.filter_comm, stable.stable x listed, List.filter_comm]

/-- Sorting some of the records is picking them out of the sorted records. -/
theorem sort_filter (transitive : IsTransitiveOn keys records)
    (sort : sort keys records = some sorted) (p : Json → Bool)
    : SortKey.sort keys (records.filter p) = some (sorted.filter p) := by
  have within : ∀ x ∈ records.filter p, x ∈ records := fun _ member => (List.mem_filter.mp member).1
  rw [sort_eq_some_iff (transitive.mono within)]
  exact ((sort_eq_some_iff transitive).mp sort).filter p

end SortKey

/-- Filtering succeeds on records however they are sorted where it does on the records as they came.
If the order of the keys is transitive on the records, they can be sorted before or after, and
sorting what is kept is filtering what is sorted.
-/
theorem Filter.keepIf_sort (filter : Option Filter) (keys : List SortKey) (records : List Json)
    : (∀ sorted, SortKey.sort keys records = some sorted
        → ((∃ kept, keepIf filter records = .ok kept) ↔ ∃ kept, keepIf filter sorted = .ok kept))
      ∧ (SortKey.IsTransitiveOn keys records → ∃ sorted, SortKey.sort keys records = some sorted
        ∧ ∀ kept, keepIf filter records = .ok kept
          → ∃ result, SortKey.sort keys kept = some result
            ∧ keepIf filter sorted = .ok result) := by
  constructor
  · intro sorted sort
    exact (exists_keepIf_iff_of_perm (SortKey.sort_perm sort)).symm
  · intro transitive
    obtain ⟨sorted, sort, _⟩ := SortKey.exists_sort transitive
    refine ⟨sorted, sort, fun kept filtered => ?_⟩
    obtain ⟨defined, rfl⟩ := keepIf_eq_ok_iff.mp filtered
    refine ⟨_, SortKey.sort_filter transitive sort _, keepIf_of_isDefinedOn ?_⟩
    exact defined.mono fun _ => (SortKey.mem_of_sort sort).mp

/-- Records other than "c", by name. -/
theorem Filter.keepIf_sort_otherNames
    : (SortKey.sort [⟨⟨"name", rfl, by decide⟩, .ascending⟩]
          [.object [("name", .string "b")], .object [("name", .string "c")],
            .object [("name", .string "a")], .object []]).map
        (keepIf
          (some (.comparison .ne (.property ⟨"name", rfl, by decide⟩) (.literal (.string "c")))))
      = some
        (.ok [.object [], .object [("name", .string "a")], .object [("name", .string "b")]]) := by
  obtain ⟨sorted, sort, kept⟩ := (keepIf_sort
    (some (.comparison .ne (.property ⟨"name", rfl, by decide⟩) (.literal (.string "c"))))
    [⟨⟨"name", rfl, by decide⟩, .ascending⟩]
    [.object [("name", .string "b")], .object [("name", .string "c")],
      .object [("name", .string "a")], .object []]).2
    (by unfold SortKey.IsTransitiveOn; decide)
  obtain ⟨result, order, filtered⟩ := kept
    [.object [("name", .string "b")], .object [("name", .string "a")], .object []] rfl
  have same : some result
      = some [.object [], .object [("name", .string "a")], .object [("name", .string "b")]] :=
    order.symm.trans (by decide)
  rw [sort, Option.map_some, filtered, Option.some_inj.mp same]

end RecordQuery
