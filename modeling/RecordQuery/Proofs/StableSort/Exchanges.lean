import Mathlib.Data.List.Basic
import RecordQuery.StableSort.Basic

/-! What sorting does to a list: it exchanges neighbours that stand the wrong way round. Where the
order is that of ranks, no such exchange ever touches items of one rank, so they stay as they
stood.
-/

namespace RecordQuery.StableSort

variable {α : Type} {rank : α → Int} {precedes : α → α → Bool}

/-- An order of some items is that of their ranks. -/
def IsRanked (rank : α → Int) (precedes : α → α → Bool) (items : List α) : Prop :=
  ∀ x ∈ items, ∀ y ∈ items, precedes x y = decide (rank x < rank y)

/-- One list comes from another by exchanges of neighbours that stand the wrong way round. -/
inductive Exchanged (rank : α → Int) : List α → List α → Prop
  | refl (items : List α) : Exchanged rank items items
  | here {x y : α} (rest : List α) (behind : rank y < rank x)
    : Exchanged rank (x :: y :: rest) (y :: x :: rest)
  | cons (item : α) {items others : List α} (later : Exchanged rank items others)
    : Exchanged rank (item :: items) (item :: others)
  | trans {items others last : List α} (first : Exchanged rank items others)
    (second : Exchanged rank others last)
    : Exchanged rank items last

/-- The items in the order of their ranks. -/
def InOrder (rank : α → Int) (items : List α) : Prop :=
  items.Pairwise (fun x y => rank x ≤ rank y)

/-- The stable order of some items: in the order of their ranks, and by no other exchanges than of
neighbours that stand the wrong way round.
-/
structure IsSortOf (rank : α → Int) (items sorted : List α) : Prop where
  exchanged : Exchanged rank items sorted
  ordered : InOrder rank sorted

namespace Exchanged

variable {items others left right : List α}

theorem perm (exchanged : Exchanged rank items others) : others.Perm items := by
  induction exchanged with
  | refl items => exact .refl items
  | here rest _ => exact .swap ..
  | cons item _ ih => exact ih.cons item
  | trans _ _ first second => exact second.trans first

theorem append_left (front : List α) (exchanged : Exchanged rank items others)
    : Exchanged rank (front ++ items) (front ++ others) := by
  induction front with
  | nil => exact exchanged
  | cons item front ih => exact .cons item ih

theorem append_right (exchanged : Exchanged rank items others) (back : List α)
    : Exchanged rank (items ++ back) (others ++ back) := by
  induction exchanged with
  | refl items => exact .refl _
  | here rest behind => exact .here (rest ++ back) behind
  | cons item _ ih => exact .cons item ih
  | trans _ _ first second => exact .trans first second

theorem append (first : Exchanged rank items others) (second : Exchanged rank left right)
    : Exchanged rank (items ++ left) (others ++ right) :=
  .trans (first.append_right left) (second.append_left others)

/-- An item goes before all that have a higher rank, one after the other. -/
theorem before {item : α} (higher : ∀ x ∈ items, rank item < rank x) (rest : List α)
    : Exchanged rank (items ++ item :: rest) (item :: (items ++ rest)) := by
  induction items with
  | nil => exact .refl _
  | cons x items ih =>
      obtain ⟨first, others⟩ := List.forall_mem_cons.mp higher
      exact .trans (.cons x (ih others)) (.here _ first)

/-- So do several items, the first one first. -/
theorem swap (left right : List α) (higher : ∀ x ∈ left, ∀ y ∈ right, rank y < rank x)
    : Exchanged rank (left ++ right) (right ++ left) := by
  induction right with
  | nil =>
      rw [List.append_nil]
      exact .refl left
  | cons y right ih =>
      have first : ∀ x ∈ left, rank y < rank x := fun x member => higher x member y List.mem_cons_self
      have others : ∀ x ∈ left, ∀ z ∈ right, rank z < rank x :=
        fun x member z listed => higher x member z (List.mem_cons_of_mem _ listed)
      exact .trans (before first right) (.cons y (ih others))

/-- The items that pass a test go before the others if they have lower ranks. -/
theorem filter_append {p : α → Bool}
    (lower : ∀ x ∈ items, p x → ∀ y ∈ items, ¬ p y → rank x < rank y)
    : Exchanged rank items (items.filter p ++ items.filter (fun item => !p item)) := by
  induction items with
  | nil => exact .refl []
  | cons x items ih =>
      have others := ih fun y member passes z listed =>
        lower y (List.mem_cons_of_mem _ member) passes z (List.mem_cons_of_mem _ listed)
      cases passes : p x with
      | true => simpa [List.filter_cons, passes] using Exchanged.cons x others
      | false =>
          have behind : ∀ y ∈ items.filter p, rank y < rank x := fun y member =>
            lower y (List.mem_cons_of_mem _ (List.mem_filter.mp member).1)
              (List.mem_filter.mp member).2 x List.mem_cons_self (by simp [passes])
          have moved := swap [x] (items.filter p) (by simpa using behind)
          have whole := (Exchanged.cons x others).trans
            (moved.append_right (items.filter fun item => !p item))
          simpa [List.filter_cons, passes] using whole

/-- What is strictly against the order is turned round. -/
theorem reverse (against : items.Pairwise (fun x y => rank y < rank x))
    : Exchanged rank items items.reverse := by
  induction items with
  | nil => exact .refl []
  | cons x items ih =>
      obtain ⟨first, others⟩ := List.pairwise_cons.mp against
      rw [List.reverse_cons]
      refine .trans (.cons x (ih others)) (swap [x] _ ?_)
      intro y member z listed
      rw [List.mem_singleton.mp member]
      exact first z (List.mem_reverse.mp listed)

/-- Turning lists round turns the ranks round. -/
theorem of_turned (exchanged : Exchanged (fun x => - rank x) items others)
    : Exchanged rank items.reverse others.reverse := by
  induction exchanged with
  | refl items => exact .refl _
  | @here x y rest behind =>
      have turned : Exchanged rank [y, x] [x, y] := .here [] (Int.lt_of_neg_lt_neg behind)
      simpa using turned.append_left rest.reverse
  | cons item _ ih =>
      rw [List.reverse_cons, List.reverse_cons]
      exact ih.append_right [item]
  | trans _ _ first second => exact .trans first second

/-- The items of a class stand as they stood if they are all of one rank. -/
theorem filter (exchanged : Exchanged rank items others) {p : α → Bool}
    (alike : ∀ x ∈ items, ∀ y ∈ items, p x → p y → rank x = rank y)
    : others.filter p = items.filter p := by
  induction exchanged with
  | refl items => rfl
  | @here x y rest behind =>
      have apart : ¬ (p x ∧ p y) := fun both =>
        absurd (alike x List.mem_cons_self y (.tail _ List.mem_cons_self) both.1 both.2)
          (Int.ne_of_gt behind)
      cases first : p x <;> cases second : p y <;> simp_all
  | cons item _ ih =>
      rw [List.filter_cons, List.filter_cons, ih fun x first y second =>
        alike x (List.mem_cons_of_mem _ first) y (List.mem_cons_of_mem _ second)]
  | trans first _ ih ih' =>
      rw [ih' fun x listed y member =>
        alike x (first.perm.mem_iff.mp listed) y (first.perm.mem_iff.mp member), ih alike]

end Exchanged

variable {items others sorted left right : List α}

theorem IsRanked.mono (ranked : IsRanked rank precedes items) (within : others ⊆ items)
    : IsRanked rank precedes others :=
  fun x first y second => ranked x (within first) y (within second)

theorem IsRanked.turned (ranked : IsRanked rank precedes items)
    : IsRanked (fun x => - rank x) (fun x y => precedes y x) items := by
  intro x first y second
  dsimp only
  rw [ranked y second x first]
  exact decide_eq_decide.mpr Int.neg_lt_neg_iff.symm

/-- Two lists turned round are ranked by the ranks turned round. -/
theorem IsRanked.turned_append (ranked : IsRanked rank precedes (left ++ right))
    : IsRanked (fun x => - rank x) (fun x y => precedes y x) (right.reverse ++ left.reverse) := by
  refine ranked.turned.mono fun x member => ?_
  simpa [or_comm] using member

theorem InOrder.turned (ordered : InOrder rank items)
    : InOrder (fun x => - rank x) items.reverse :=
  List.pairwise_reverse.mpr (ordered.imp Int.neg_le_neg)

theorem InOrder.of_turned (ordered : InOrder (fun x => - rank x) items)
    : InOrder rank items.reverse :=
  List.pairwise_reverse.mpr (ordered.imp Int.le_of_neg_le_neg)

theorem InOrder.append (first : InOrder rank left) (second : InOrder rank right)
    (between : ∀ x ∈ left, ∀ y ∈ right, rank x ≤ rank y)
    : InOrder rank (left ++ right) :=
  List.pairwise_append.mpr ⟨first, second, between⟩

/-- Lists that stand one behind the other in the order are sorted one by one. -/
theorem IsSortOf.append {xs ys : List α} (first : IsSortOf rank left xs)
    (second : IsSortOf rank right ys) (between : ∀ x ∈ left, ∀ y ∈ right, rank x ≤ rank y)
    : IsSortOf rank (left ++ right) (xs ++ ys) := by
  refine ⟨first.exchanged.append second.exchanged, first.ordered.append second.ordered ?_⟩
  exact fun x member y listed =>
    between x (first.exchanged.perm.mem_iff.mp member) y (second.exchanged.perm.mem_iff.mp listed)

theorem isSortOf_self (ordered : InOrder rank items) : IsSortOf rank items items :=
  ⟨.refl items, ordered⟩

theorem IsSortOf.of_turned (sort : IsSortOf (fun x => - rank x) items sorted)
    : IsSortOf rank items.reverse sorted.reverse :=
  ⟨sort.exchanged.of_turned, sort.ordered.of_turned⟩

/-- Exchanges before sorting make no difference. -/
theorem IsSortOf.of_exchanged (exchanged : Exchanged rank items others)
    (sort : IsSortOf rank others sorted)
    : IsSortOf rank items sorted :=
  ⟨exchanged.trans sort.exchanged, sort.ordered⟩

-----------------------------------------------------------------------------------------
-- Ways of sorting
-----------------------------------------------------------------------------------------

/-- A way of sorting that, whatever the order, has all items in a result. -/
def IsPermuting (sort : List α → Option (List α)) : Prop :=
  ∀ ⦃items sorted⦄, sort items = some sorted → sorted.Perm items

/-- A way of sorting that gives the stable order of all items whose order is that of ranks. -/
def IsSorting (rank : α → Int) (precedes : α → α → Bool) (sort : List α → Option (List α)) : Prop :=
  ∀ ⦃items⦄, IsRanked rank precedes items
    → ∃ sorted, sort items = some sorted ∧ IsSortOf rank items sorted

end RecordQuery.StableSort
