import RecordQuery.Filter.Evaluation
import RecordQuery.Proofs.Order.Transitivity
import RecordQuery.Proofs.Text.Utf16

/-! How the comparison operators of filters and the order for sorting agree. Two scalars of one kind
stand in exactly one of three orders, which tells all operators; between other values the operators
for an order hold of nothing. What an operator says is never against the order for sorting.
-/

namespace RecordQuery

/-- The kinds of the values that have no parts. -/
def Json.scalarKinds : List Json.Kind := [.null, .boolean, .number, .string]

/-- Both values are there and are of the same scalar kind. -/
def AreOfOneScalarKind (x y : Option Json) : Prop :=
  ∃ kind ∈ Json.scalarKinds, x.map Json.kind = some kind ∧ y.map Json.kind = some kind

instance (x y : Option Json) : Decidable (AreOfOneScalarKind x y) :=
  inferInstanceAs (Decidable (∃ kind ∈ Json.scalarKinds, _))

/-- Whether an operator holds where the values stand in some order. -/
def Comparison.holdsIn (operator : Comparison) (order : Ordering) : Bool :=
  match operator with
  | .eq => order.isEq
  | .ne => order.isNe
  | .lt => order.isLT
  | .le => order.isLE
  | .gt => order.isGT
  | .ge => order.isGE

variable {x y : Option Json} {order : Ordering}

/-- There is an order between scalars of one kind only. -/
theorem exists_partialOrder_iff
    : (∃ order, partialOrder x y = some order) ↔ AreOfOneScalarKind x y := by
  rcases x with _ | _ | _ | _ | _ | _ | _ <;> rcases y with _ | _ | _ | _ | _ | _ | _
    <;> simp [partialOrder, AreOfOneScalarKind, Json.scalarKinds, Json.kind]

/-- Scalars are equal where neither comes first. -/
theorem strictEq_of_partialOrder (ordered : partialOrder x y = some order)
    : strictEq x y = order.isEq := by
  fun_cases partialOrder x y with
  | case1 a b =>
      cases ordered
      change (a.compare b == .eq) = (a.compare b).isEq
      cases a.compare b <;> rfl
  | case2 s t =>
      cases ordered
      rw [strictEq, Bool.eq_iff_iff, Json.sameValue_string, Ordering.isEq_iff_eq_eq,
        Text.compareUnits_eq_eq_iff, Json.string.injEq]
  | case3 a b =>
      cases ordered
      cases a <;> cases b <;> rfl
  | case4 =>
      cases ordered
      rfl
  | case5 _ _ numbers strings truths nulls => simp [partialOrder] at ordered

/-- The order of two scalars tells all operators. -/
theorem holds_of_partialOrder (ordered : partialOrder x y = some order) (operator : Comparison)
    : operator.holds x y = operator.holdsIn order := by
  have equal := strictEq_of_partialOrder ordered
  cases operator <;> simp only [Comparison.holds, Comparison.holdsIn, ordered, equal]
    <;> cases order <;> rfl

/-- The operators for an order hold of no other values. -/
theorem holds_of_not_areOfOneScalarKind (apart : ¬ AreOfOneScalarKind x y)
    {operator : Comparison} (member : operator ∈ [Comparison.lt, .le, .gt, .ge])
    : operator.holds x y = false := by
  have none : partialOrder x y = none := by
    rw [← exists_partialOrder_iff] at apart
    exact Option.eq_none_iff_forall_ne_some.mpr fun order ordered => apart ⟨order, ordered⟩
  simp only [List.mem_cons, List.not_mem_nil, or_false] at member
  rcases member with rfl | rfl | rfl | rfl <;> simp [Comparison.holds, none]

/-- The sides of an order are changed with the sides of the operator. -/
theorem holds_swap (x y : Option Json)
    : Comparison.lt.holds x y = Comparison.gt.holds y x
      ∧ Comparison.le.holds x y = Comparison.ge.holds y x := by
  simp only [Comparison.holds, partialOrder_swap x y]
  rcases partialOrder x y with _ | _ | _ | _ <;> decide

-----------------------------------------------------------------------------------------
-- The order for sorting
-----------------------------------------------------------------------------------------

/-- The order of scalars is that for sorting. -/
theorem totalOrder_of_partialOrder (ordered : partialOrder x y = some order)
    : totalOrder x y = order := by
  have same : compare (rank x) (rank y) = .eq :=
    Nat.compare_eq_eq.mpr (rank_eq_of_partialOrder ordered)
  rw [totalOrder, same, ordered]
  rfl

/-- Equal values are of one kind. -/
theorem rank_eq_of_strictEq (equal : strictEq x y) : rank x = rank y := by
  rcases x with _ | x <;> rcases y with _ | y
  · rfl
  · cases equal
  · cases equal
  · cases x <;> cases y <;> first | rfl | cases equal

/-- Equal values tie for sorting. -/
theorem totalOrder_of_strictEq (equal : strictEq x y) : totalOrder x y = .eq := by
  have same : compare (rank x) (rank y) = .eq :=
    Nat.compare_eq_eq.mpr (rank_eq_of_strictEq equal)
  cases ordered : partialOrder x y with
  | some order =>
      rw [strictEq_of_partialOrder ordered, Ordering.isEq_iff_eq_eq] at equal
      rw [totalOrder_of_partialOrder ordered, equal]
  | none =>
      rw [totalOrder, same, ordered]
      rfl

/-- What the operators say of two values. An operator and the one that negates it, or has its sides
changed, agree. Scalars of one kind stand in exactly one order, which the operators with two orders
follow, and of other values no operator for an order holds. The order for sorting puts first what is
less and ties what is equal, and of scalars of one kind nothing else.
-/
theorem holds_agrees_totalOrder (x y : Option Json)
    : Comparison.ne.holds x y = !Comparison.eq.holds x y
      ∧ Comparison.lt.holds x y = Comparison.gt.holds y x
      ∧ Comparison.le.holds x y = Comparison.ge.holds y x
      ∧ (AreOfOneScalarKind x y
        → [Comparison.lt, .eq, .gt].countP (·.holds x y) = 1
          ∧ Comparison.le.holds x y = (Comparison.lt.holds x y || Comparison.eq.holds x y)
          ∧ Comparison.ge.holds x y = (Comparison.gt.holds x y || Comparison.eq.holds x y))
      ∧ (¬ AreOfOneScalarKind x y
        → ∀ operator ∈ [Comparison.lt, .le, .gt, .ge], operator.holds x y = false)
      ∧ (Comparison.lt.holds x y → totalOrder x y = .lt)
      ∧ (Comparison.eq.holds x y → totalOrder x y = .eq)
      ∧ (AreOfOneScalarKind x y → totalOrder x y = .eq → Comparison.eq.holds x y) := by
  obtain ⟨less, lessOrEqual⟩ := holds_swap x y
  refine ⟨rfl, less, lessOrEqual, ?_, ?_, ?_, ?_, ?_⟩
  · intro scalars
    obtain ⟨order, ordered⟩ := exists_partialOrder_iff.mpr scalars
    simp only [List.countP_cons, List.countP_nil, holds_of_partialOrder ordered]
    cases order <;> decide
  · exact fun apart operator member => holds_of_not_areOfOneScalarKind apart member
  · intro held
    exact totalOrder_of_partialOrder (beq_iff_eq.mp held)
  · exact totalOrder_of_strictEq
  · intro scalars tied
    obtain ⟨order, ordered⟩ := exists_partialOrder_iff.mpr scalars
    rw [totalOrder_of_partialOrder ordered] at tied
    rw [holds_of_partialOrder ordered, tied]
    rfl

/-- The integer zero and the negative zero of doubles are equal, `false` is less than `true`, and
what is absent has no order with `null`, but for sorting.
-/
theorem holds_agrees_totalOrder_threePairs
    : let zero := some (Json.number (.nearestInt 0))
      let negativeZero := some (Json.number (.double ⟨true, 0, 0, 0, by decide, by decide, rfl⟩))
      (AreOfOneScalarKind zero negativeZero ∧ totalOrder zero negativeZero = .eq
        ∧ Comparison.eq.holds zero negativeZero
        ∧ [Comparison.lt, .eq, .gt].countP (·.holds zero negativeZero) = 1)
      ∧ (Comparison.lt.holds (some (.bool false)) (some (.bool true))
        ∧ totalOrder (some (.bool false)) (some (.bool true)) = .lt)
      ∧ ¬ AreOfOneScalarKind none (some .null) ∧ totalOrder none (some .null) = .lt
      ∧ Comparison.le.holds none (some .null) = false := by
  intro zero negativeZero
  obtain ⟨_, _, _, ordered, _, _, _, equal⟩ := holds_agrees_totalOrder zero negativeZero
  obtain ⟨_, _, _, _, _, less, _⟩ := holds_agrees_totalOrder (some (.bool false)) (some (.bool true))
  obtain ⟨_, _, _, _, unordered, _⟩ := holds_agrees_totalOrder none (some .null)
  have scalars : AreOfOneScalarKind zero negativeZero := by decide
  have tied : totalOrder zero negativeZero = .eq := by decide +kernel
  have apart : ¬ AreOfOneScalarKind none (some .null) := by decide
  exact ⟨⟨scalars, tied, equal scalars tied, (ordered scalars).1⟩, ⟨by decide, less (by decide)⟩,
    apart, by decide, unordered apart .le (by decide)⟩

end RecordQuery
