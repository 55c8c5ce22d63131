import Mathlib.Data.List.Basic
import RecordQuery.Proofs.Query.KeyOrder

/-! Sorting by several keys is sorting by one key after the other, the last key first: a sort by
earlier keys keeps the order of the later ones among the records that it ties. A key whose path
occurred before ties what is left to it, so it makes no difference.
-/

namespace RecordQuery.SortKey

variable {front back : List SortKey} {records sorted result : List Json}

-----------------------------------------------------------------------------------------
-- One sort after the other
-----------------------------------------------------------------------------------------

theorem ties_append (front back : List SortKey) (x y : Json)
    : ties (front ++ back) x y = (ties front x y && ties back x y) := by
  rw [Bool.eq_iff_iff, Bool.and_eq_true, ties_iff_areTied, ties_iff_areTied, ties_iff_areTied]
  exact List.forall_mem_append

/-- The records that several keys tie are those that the later keys tie among those that the earlier
keys tie.
-/
theorem filter_ties_append (front back : List SortKey) (x : Json) (records : List Json)
    : records.filter (ties (front ++ back) x)
      = (records.filter (ties front x)).filter (ties back x) := by
  rw [List.filter_filter]
  exact List.filter_congr fun y _ => (ties_append front back x y).trans (Bool.and_comm _ _)

/-- Where the earlier keys tie records, their sort leaves them in the order of the later keys. -/
theorem IsStableOrder.pairwise_append (first : IsStableOrder back records sorted)
    (second : IsStableOrder front sorted result)
    : result.Pairwise (fun x y => (compareAll (front ++ back) x y).isLE) := by
  refine List.pairwise_iff_forall_sublist.mpr (fun {x y} pair => ?_)
  have low := List.pairwise_iff_forall_sublist.mp second.ordered pair
  rw [compareAll_append, isLE_then_iff]
  refine ⟨low, fun order => ?_⟩
  have listed : x ∈ sorted := second.perm.mem_iff.mp (pair.subset List.mem_cons_self)
  have tied : ties front x y := decide_eq_true order
  -- the two are in one class of ties, which the second sort leaves as it stood
  have both : [x, y].filter (ties front x) = [x, y] := by simp [ties_self, tied]
  have kept : [x, y].Sublist (sorted.filter (ties front x)) := by
    rw [← second.stable x listed, ← both]
    exact pair.filter _
  exact List.pairwise_iff_forall_sublist.mp first.ordered (kept.trans List.filter_sublist)

/-- A stable order by the earlier keys, of a stable order by the later ones, is one by all keys. -/
theorem IsStableOrder.append (first : IsStableOrder back records sorted)
    (second : IsStableOrder front sorted result)
    : IsStableOrder (front ++ back) records result := by
  refine ⟨second.perm.trans first.perm, first.pairwise_append second, fun x member => ?_⟩
  have listed : x ∈ sorted := first.perm.mem_iff.mpr member
  calc
    result.filter (ties (front ++ back) x)
      = (result.filter (ties front x)).filter (ties back x) := filter_ties_append ..
    _ = (sorted.filter (ties front x)).filter (ties back x) := by rw [second.stable x listed]
    _ = (sorted.filter (ties back x)).filter (ties front x) := List.filter_comm ..
    _ = (records.filter (ties back x)).filter (ties front x) := by rw [first.stable x member]
    _ = (records.filter (ties front x)).filter (ties back x) := List.filter_comm ..
    _ = records.filter (ties (front ++ back) x) := (filter_ties_append ..).symm

theorem sort_append (first : IsTransitiveOn front records) (second : IsTransitiveOn back records)
    : sort (front ++ back) records = (sort back records).bind (sort front) := by
  obtain ⟨sorted, sort, stable⟩ := exists_sort second
  have again : IsTransitiveOn front sorted := first.mono fun _ => (mem_of_sort sort).mp
  obtain ⟨result, sort', stable'⟩ := exists_sort again
  rw [sort, Option.bind_some, sort', sort_eq_some_iff (first.append second)]
  exact stable.append stable'

-----------------------------------------------------------------------------------------
-- Keys that make no difference
-----------------------------------------------------------------------------------------

theorem compare_eq_eq_iff_totalOrder {key : SortKey} {x y : Json}
    : key.compare x y = .eq ↔ totalOrder (key.path.resolve x) (key.path.resolve y) = .eq := by
  unfold compare
  cases key.direction with
  | ascending => exact Iff.rfl
  | descending => exact Ordering.swap_eq_eq

/-- A key whose path occurred before is asked only where it ties the records. -/
theorem compareAll_repeated {key : SortKey} (repeated : ∃ earlier ∈ front, earlier.path = key.path)
    : compareAll (front ++ key :: back) = compareAll (front ++ back) := by
  obtain ⟨earlier, member, same⟩ := repeated
  funext x y
  rw [compareAll_append, compareAll_append, compareAll]
  cases order : compareAll front x y with
  | lt => rfl
  | gt => rfl
  | eq =>
      have before := compareAll_eq_eq_iff.mp order earlier member
      rw [compare_eq_eq_iff_totalOrder, same, ← compare_eq_eq_iff_totalOrder] at before
      rw [before]
      rfl

/-- What a sort by some keys gives is decided by their order. -/
theorem sort_congr {keys others : List SortKey} (same : compareAll keys = compareAll others)
    (given : keys ≠ []) (given' : others ≠ [])
    : sort keys records = sort others records := by
  have order : precedes keys = precedes others := by
    unfold precedes
    rw [same]
  rw [sort_of_ne_nil given, sort_of_ne_nil given', order]

-----------------------------------------------------------------------------------------
-- Sorting by several keys
-----------------------------------------------------------------------------------------

/-- Sorting by several keys is sorting by each of them alone, the last one first, where the order of
each is transitive, and comes to a result there. A key whose path occurred before, in whatever
direction, can be left out.
-/
theorem sort_eq_foldr (keys : List SortKey) (records : List Json)
    : ((∀ key ∈ keys, IsTransitiveOn [key] records)
        → (∃ sorted, sort keys records = some sorted)
          ∧ sort keys records
            = keys.foldr (fun key sorted => sorted.bind (sort [key])) (some records))
      ∧ ∀ front key back, keys = front ++ key :: back
        → (∃ earlier ∈ front, earlier.path = key.path)
        → sort keys records = sort (front ++ back) records := by
  constructor
  case left =>
    intro each
    constructor
    · obtain ⟨sorted, sort, _⟩ := exists_sort (isTransitiveOn_of_forall each)
      exact ⟨sorted, sort⟩
    · induction keys with
      | nil => rfl
      | cons key rest ih =>
          obtain ⟨first, others⟩ := List.forall_mem_cons.mp each
          rw [List.foldr_cons, ← ih others, ← List.singleton_append]
          exact sort_append first (isTransitiveOn_of_forall others)
  case right =>
    rintro front key back rfl repeated
    have given : front ≠ [] := by
      obtain ⟨_, member, _⟩ := repeated
      exact List.ne_nil_of_mem member
    exact sort_congr (compareAll_repeated repeated) (List.append_ne_nil_of_left_ne_nil given _)
      (List.append_ne_nil_of_left_ne_nil given _)

/-- Records by name and then by age downwards, where a third key asks for the name once more. -/
theorem sort_eq_foldr_nameTwice
    : (((sort [⟨⟨"name", rfl, by decide⟩, .descending⟩]
            [.object [("name", .string "b"), ("age", .number (.int 7 (by decide)))],
              .object [("name", .string "a")],
              .object [("name", .string "b"), ("age", .number (.int 9 (by decide)))]]).bind
          (sort [⟨⟨"age", rfl, by decide⟩, .descending⟩])).bind
        (sort [⟨⟨"name", rfl, by decide⟩, .ascending⟩]))
        = some
          [.object [("name", .string "a")],
            .object [("name", .string "b"), ("age", .number (.int 9 (by decide)))],
            .object [("name", .string "b"), ("age", .number (.int 7 (by decide)))]]
      ∧ sort
          [⟨⟨"name", rfl, by decide⟩, .ascending⟩, ⟨⟨"age", rfl, by decide⟩, .descending⟩]
          [.object [("name", .string "b"), ("age", .number (.int 7 (by decide)))],
            .object [("name", .string "a")],
            .object [("name", .string "b"), ("age", .number (.int 9 (by decide)))]]
        = some
          [.object [("name", .string "a")],
            .object [("name", .string "b"), ("age", .number (.int 9 (by decide)))],
            .object [("name", .string "b"), ("age", .number (.int 7 (by decide)))]] := by
  obtain ⟨successive, shorter⟩ := sort_eq_foldr
    [⟨⟨"name", rfl, by decide⟩, .ascending⟩, ⟨⟨"age", rfl, by decide⟩, .descending⟩,
      ⟨⟨"name", rfl, by decide⟩, .descending⟩]
    [.object [("name", .string "b"), ("age", .number (.int 7 (by decide)))],
      .object [("name", .string "a")],
      .object [("name", .string "b"), ("age", .number (.int 9 (by decide)))]]
  have removed := shorter
    [⟨⟨"name", rfl, by decide⟩, .ascending⟩, ⟨⟨"age", rfl, by decide⟩, .descending⟩]
    ⟨⟨"name", rfl, by decide⟩, .descending⟩ [] rfl ⟨_, List.mem_cons_self, rfl⟩
  rw [List.append_nil] at removed
  constructor
  · exact (successive (by unfold IsTransitiveOn; decide)).2.symm.trans (by decide)
  · exact removed.symm.trans (by decide)

end RecordQuery.SortKey
