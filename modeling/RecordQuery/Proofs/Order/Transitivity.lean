import Mathlib.Logic.Basic
import RecordQuery.Order
import RecordQuery.Proofs.Json.Fields
import RecordQuery.Proofs.Number.Order
import RecordQuery.Proofs.Text.Utf16

/-! How far the rules for comparing values are orders. The order for sorting can be turned round and
ties every value with itself. It is transitive, and so is equality, but for one case: a double may
be equal to two different integers that both round to it. For the order the double itself has to be
compared, for equality it may stand anywhere inside the values.
-/

namespace RecordQuery

-----------------------------------------------------------------------------------------
-- The order for sorting
-----------------------------------------------------------------------------------------

theorem partialOrder_swap (x y : Option Json)
    : partialOrder y x = (partialOrder x y).map .swap := by
  fun_cases partialOrder x y with
  | case1 a b => exact congrArg some Std.OrientedCmp.eq_swap
  | case2 a b => exact congrArg some Std.OrientedCmp.eq_swap
  | case3 a b => exact congrArg some Std.OrientedCmp.eq_swap
  | case4 => rfl
  | case5 x y numbers strings truths nulls =>
      fun_cases partialOrder y x with
      | case1 b a => exact absurd rfl (numbers a b rfl)
      | case2 b a => exact absurd rfl (strings a b rfl)
      | case3 b a => exact absurd rfl (truths a b rfl)
      | case4 => exact absurd rfl (nulls rfl)
      | case5 => rfl

/-- Only values of one kind are in the order of that kind. -/
theorem rank_eq_of_partialOrder {x y : Option Json} {order : Ordering}
    (ordered : partialOrder x y = some order)
    : rank x = rank y := by
  fun_cases partialOrder x y with
  | case1 | case2 | case3 | case4 => rfl
  | case5 _ _ numbers strings truths nulls => simp [partialOrder] at ordered

instance : Std.OrientedCmp totalOrder where
  eq_swap {x y} := by
    rw [totalOrder, totalOrder, Ordering.swap_then, ← Std.OrientedCmp.eq_swap,
      partialOrder_swap y x]
    cases partialOrder y x <;> rfl

theorem Json.Kind.rank_injective {k l : Kind} (h : k.rank = l.rank) : k = l := by
  revert h
  cases k <;> cases l <;> decide

/-- What is ranked as a value is a value of its kind. -/
theorem exists_of_rank_eq {value : Json} {y : Option Json} (h : rank (some value) = rank y)
    : ∃ other, y = some other ∧ other.kind = value.kind := by
  cases y with
  | none =>
      have pos : 0 < value.kind.rank := by cases value.kind <;> decide
      exact absurd h (Nat.ne_of_gt pos)
  | some other => exact ⟨other, rfl, (Json.Kind.rank_injective h).symm⟩

/-- Values are in order by their kinds, and within a kind by the order of that kind. -/
theorem isLE_totalOrder {x y : Option Json}
    : (totalOrder x y).isLE
      ↔ rank x < rank y ∨ rank x = rank y ∧ ((partialOrder x y).getD .eq).isLE := by
  rw [totalOrder, Ordering.isLE_then_iff_or, Nat.compare_eq_lt, Nat.compare_eq_eq]

/-- A double that is equal to two different integers, as values that may be absent. -/
def NumbersConflated (x y z : Option Json) : Prop :=
  ∃ a b c : Number, x = some (.number a) ∧ y = some (.number b) ∧ z = some (.number c)
    ∧ a.Conflated b c

/-- The order of values of one kind is transitive but for numbers that are conflated. -/
theorem isLE_partialOrder_trans {x y z : Option Json} (sameLeft : rank x = rank y)
    (sameRight : rank y = rank z) (low : ((partialOrder x y).getD .eq).isLE)
    (high : ((partialOrder y z).getD .eq).isLE)
    : ((partialOrder x z).getD .eq).isLE ∨ NumbersConflated x y z := by
  fun_cases partialOrder x z with
  | case1 a c =>
      obtain ⟨value, rfl, kind⟩ := exists_of_rank_eq sameLeft
      cases value with
      | number b =>
          refine (Number.isLE_compare_trans low high).imp id (fun apart => ?_)
          exact ⟨a, b, c, rfl, rfl, rfl, apart⟩
      | null | bool _ | string _ | array _ | object _ => cases kind
  | case2 a c =>
      obtain ⟨value, rfl, kind⟩ := exists_of_rank_eq sameLeft
      cases value with
      | string b =>
          have through : (Text.compareUnits a b).isLE → (Text.compareUnits b c).isLE
              → (Text.compareUnits a c).isLE := Std.TransCmp.isLE_trans
          exact .inl (through low high)
      | null | bool _ | number _ | array _ | object _ => cases kind
  | case3 a c =>
      obtain ⟨value, rfl, kind⟩ := exists_of_rank_eq sameLeft
      cases value with
      | bool b =>
          have through : (compare a b).isLE → (compare b c).isLE → (compare a c).isLE :=
            Std.TransCmp.isLE_trans
          exact .inl (through low high)
      | null | number _ | string _ | array _ | object _ => cases kind
  | case4 => exact .inl rfl
  | case5 => exact .inl rfl

/-- The order for sorting is transitive but for numbers that are conflated. -/
theorem isLE_totalOrder_trans {x y z : Option Json} (low : (totalOrder x y).isLE)
    (high : (totalOrder y z).isLE)
    : (totalOrder x z).isLE ∨ NumbersConflated x y z := by
  rw [isLE_totalOrder] at low high
  rcases low with low | ⟨sameLeft, low⟩
  · refine .inl (isLE_totalOrder.mpr (.inl ?_))
    rcases high with high | ⟨sameRight, _⟩
    · exact Nat.lt_trans low high
    · exact sameRight ▸ low
  · rcases high with high | ⟨sameRight, high⟩
    · exact .inl (isLE_totalOrder.mpr (.inl (sameLeft ▸ high)))
    · refine (isLE_partialOrder_trans sameLeft sameRight low high).imp (fun ordered => ?_) id
      exact isLE_totalOrder.mpr (.inr ⟨sameLeft.trans sameRight, ordered⟩)

-----------------------------------------------------------------------------------------
-- Equality of values
-----------------------------------------------------------------------------------------

namespace Json

/-- Three values that agree but for numbers at one place inside them, which are conflated. -/
inductive Conflated : Json → Json → Json → Prop
  | number {x y z : Number} (apart : x.Conflated y z)
    : Conflated (.number x) (.number y) (.number z)
  | item {xs ys zs : List Json} {x y z : Json} (place : Nat) (first : xs[place]? = some x)
    (second : ys[place]? = some y) (third : zs[place]? = some z) (apart : Conflated x y z)
    : Conflated (.array xs) (.array ys) (.array zs)
  | field {xs ys zs : List Field} {x y z : Json} (name : String) (first : (name, x) ∈ xs)
    (second : field? name ys = some y) (third : field? name zs = some z)
    (apart : Conflated x y z)
    : Conflated (.object xs) (.object ys) (.object zs)

/-- Each field of one object has an equal one in the other. -/
theorem sameFields_iff {xs ys : List Field}
    : sameFields xs ys = true
      ↔ ∀ name x, (name, x) ∈ xs → ∃ y, field? name ys = some y ∧ x.sameValue y := by
  induction xs with
  | nil => simp [sameFields]
  | cons field rest ih =>
      obtain ⟨key, value⟩ := field
      rw [sameFields, Bool.and_eq_true, ih]
      constructor
      · intro held name x member
        rcases List.mem_cons.mp member with same | member
        · cases same
          have here := held.1
          split at here
          · next y found => exact ⟨y, found, here⟩
          · cases here
        · exact held.2 name x member
      · intro held
        refine ⟨?_, fun name x member => held name x (List.mem_cons_of_mem _ member)⟩
        obtain ⟨y, found, same⟩ := held key value List.mem_cons_self
        rw [found]
        exact same

/-- Two lists of items that are equal to the same list, at some place of which items are conflated.
-/
def ItemsConflated (xs ys zs : List Json) : Prop :=
  ∃ (place : Nat) (x y z : Json), xs[place]? = some x ∧ ys[place]? = some y ∧ zs[place]? = some z
    ∧ Conflated x y z

theorem itemsConflated_cons {x y z : Json} {xs ys zs : List Json}
    : ItemsConflated (x :: xs) (y :: ys) (z :: zs) ↔ Conflated x y z ∨ ItemsConflated xs ys zs := by
  constructor
  · intro found
    obtain ⟨place, a, b, c, first, second, third, apart⟩ := found
    cases place with
    | zero =>
        cases first
        cases second
        cases third
        exact .inl apart
    | succ place => exact .inr ⟨place, a, b, c, first, second, third, apart⟩
  · intro found
    rcases found with apart | ⟨place, a, b, c, first, second, third, apart⟩
    · exact ⟨0, x, y, z, rfl, rfl, rfl, apart⟩
    · exact ⟨place + 1, a, b, c, first, second, third, apart⟩

/-- Fields that are conflated with those of two other objects. -/
def FieldsConflated (xs ys zs : List Field) : Prop :=
  ∃ name x y z, (name, x) ∈ xs ∧ field? name ys = some y ∧ field? name zs = some z
    ∧ Conflated x y z

theorem sameValue_null {y : Json} : null.sameValue y ↔ null = y := by
  cases y <;> simp [sameValue]

theorem sameValue_bool {a : Bool} {y : Json} : (bool a).sameValue y ↔ bool a = y := by
  cases y <;> simp [sameValue]

theorem sameValue_string {s : String} {y : Json} : (string s).sameValue y ↔ string s = y := by
  cases y <;> simp [sameValue]

theorem sameValue_number {a : Number} {y : Json}
    : (number a).sameValue y ↔ ∃ b, y = number b ∧ a.compare b = .eq := by
  cases y <;> simp [sameValue]

theorem sameValue_array {xs : List Json} {y : Json}
    : (array xs).sameValue y ↔ ∃ ys, y = array ys ∧ sameItems xs ys := by
  cases y <;> simp [sameValue]

theorem sameValue_object {xs : List Field} {y : Json}
    : (object xs).sameValue y ↔ ∃ ys, y = object ys ∧ xs.length = ys.length ∧ sameFields xs ys := by
  cases y <;> simp [sameValue]

mutual
/-- Equality of values is transitive but where numbers inside them are conflated, by induction on
the first value.
-/
theorem not_sameValue_iff {x y z : Json} (low : x.sameValue y) (high : y.sameValue z)
    : ¬ x.sameValue z ↔ Conflated x y z := by
  cases x with
  | null =>
      obtain rfl := sameValue_null.mp low
      exact ⟨fun differ => absurd high differ, fun apart => nomatch apart⟩
  | bool a =>
      obtain rfl := sameValue_bool.mp low
      exact ⟨fun differ => absurd high differ, fun apart => nomatch apart⟩
  | string s =>
      obtain rfl := sameValue_string.mp low
      exact ⟨fun differ => absurd high differ, fun apart => nomatch apart⟩
  | number a =>
      obtain ⟨b, rfl, first⟩ := sameValue_number.mp low
      obtain ⟨c, rfl, second⟩ := sameValue_number.mp high
      constructor
      · intro differ
        rcases Number.compare_eq_trans first second with same | apart
        · exact absurd (sameValue_number.mpr ⟨c, rfl, same⟩) differ
        · exact .number apart
      · intro apart same
        obtain ⟨_, equal, same⟩ := sameValue_number.mp same
        cases equal
        cases apart with
        | number apart => exact apart.compare_ne same
  | array xs =>
      obtain ⟨ys, rfl, first⟩ := sameValue_array.mp low
      obtain ⟨zs, rfl, second⟩ := sameValue_array.mp high
      have items := not_sameItems_iff first second
      constructor
      · intro differ
        obtain ⟨place, _, _, _, here, here', here'', apart⟩ :=
          items.mp (fun same => differ (sameValue_array.mpr ⟨zs, rfl, same⟩))
        exact .item place here here' here'' apart
      · intro apart same
        obtain ⟨_, equal, same⟩ := sameValue_array.mp same
        cases equal
        cases apart with
        | item place here here' here'' apart =>
            exact items.mpr ⟨place, _, _, _, here, here', here'', apart⟩ same
  | object xs =>
      obtain ⟨ys, rfl, many, first⟩ := sameValue_object.mp low
      obtain ⟨zs, rfl, many', second⟩ := sameValue_object.mp high
      have fields := not_sameFields_iff first second
      constructor
      · intro differ
        obtain ⟨name, _, _, _, here, here', here'', apart⟩ :=
          fields.mp (fun same => differ (sameValue_object.mpr ⟨zs, rfl, many.trans many', same⟩))
        exact .field name here here' here'' apart
      · intro apart same
        obtain ⟨_, equal, _, same⟩ := sameValue_object.mp same
        cases equal
        cases apart with
        | field name here here' here'' apart =>
            exact fields.mpr ⟨name, _, _, _, here, here', here'', apart⟩ same
termination_by sizeOf x

theorem not_sameItems_iff {xs ys zs : List Json} (low : sameItems xs ys) (high : sameItems ys zs)
    : ¬ sameItems xs zs ↔ ItemsConflated xs ys zs := by
  cases xs with
  | nil =>
      cases ys with
      | cons y ys => cases low
      | nil => exact ⟨fun differ => absurd high differ, fun ⟨_, _, _, _, here, _⟩ => nomatch here⟩
  | cons x xs =>
      cases ys with
      | nil => cases low
      | cons y ys =>
          cases zs with
          | nil => cases high
          | cons z zs =>
              rw [sameItems, Bool.and_eq_true] at low high
              rw [itemsConflated_cons, ← not_sameValue_iff low.1 high.1,
                ← not_sameItems_iff low.2 high.2, sameItems, Bool.and_eq_true, not_and_or]
termination_by sizeOf xs

theorem not_sameFields_iff {xs ys zs : List Field} (low : sameFields xs ys)
    (high : sameFields ys zs)
    : ¬ sameFields xs zs ↔ FieldsConflated xs ys zs := by
  match xs with
  | [] => exact ⟨fun differ => absurd rfl differ, fun ⟨_, _, _, _, here, _⟩ => nomatch here⟩
  | (name, x) :: xs =>
      have lowRest : sameFields xs ys := sameFields_iff.mpr fun other value member =>
        sameFields_iff.mp low other value (List.mem_cons_of_mem _ member)
      have later := not_sameFields_iff lowRest high
      obtain ⟨y, found, equal⟩ := sameFields_iff.mp low name x List.mem_cons_self
      obtain ⟨z, found', equal'⟩ := sameFields_iff.mp high name y (mem_of_field? found)
      have here := not_sameValue_iff equal equal'
      rw [sameFields, found', Bool.and_eq_true, not_and_or, here, later]
      constructor
      · intro differ
        rcases differ with apart | ⟨other, a, b, c, first, second, third, apart⟩
        · exact ⟨name, x, y, z, List.mem_cons_self, found, found', apart⟩
        · exact ⟨other, a, b, c, List.mem_cons_of_mem _ first, second, third, apart⟩
      · intro differ
        obtain ⟨other, a, b, c, first, second, third, apart⟩ := differ
        rcases List.mem_cons.mp first with same | first
        · cases same
          cases found.symm.trans second
          cases found'.symm.trans third
          exact .inl apart
        · exact .inr ⟨other, a, b, c, first, second, third, apart⟩
termination_by sizeOf xs
end

end Json

/-- Values that may be absent, with numbers at one place inside them that are conflated. -/
def Conflated (x y z : Option Json) : Prop :=
  ∃ a b c : Json, x = some a ∧ y = some b ∧ z = some c ∧ a.Conflated b c

theorem not_strictEq_iff {x y z : Option Json} (low : strictEq x y) (high : strictEq y z)
    : ¬ strictEq x z ↔ Conflated x y z := by
  cases x with
  | none =>
      cases y with
      | some b => cases low
      | none => exact ⟨fun differ => absurd high differ, fun ⟨_, _, _, absent, _⟩ => nomatch absent⟩
  | some a =>
      cases y with
      | none => cases low
      | some b =>
          cases z with
          | none => cases high
          | some c =>
              refine (Json.not_sameValue_iff low high).trans ⟨fun apart => ?_, fun found => ?_⟩
              · exact ⟨a, b, c, rfl, rfl, rfl, apart⟩
              · obtain ⟨_, _, _, same, same', same'', apart⟩ := found
                cases same
                cases same'
                cases same''
                exact apart

-----------------------------------------------------------------------------------------
-- Both rules together
-----------------------------------------------------------------------------------------

/-- How far the rules for comparing are orders. The order for sorting ties a value with itself and
is turned round with its sides. It fails to be transitive exactly at a double that is equal to two
different integers, the greater one first, and equality exactly where such numbers stand at one
place inside the values.
-/
theorem totalOrder_strictEq_coherent (x y z : Option Json)
    : totalOrder x x = .eq
      ∧ totalOrder y x = (totalOrder x y).swap
      ∧ ((totalOrder x y).isLE ∧ (totalOrder y z).isLE ∧ totalOrder x z = .gt
        ↔ NumbersConflated x y z ∧ totalOrder x z = .gt)
      ∧ (strictEq x y ∧ strictEq y z ∧ ¬ strictEq x z
        ↔ strictEq x y ∧ strictEq y z ∧ Conflated x y z) := by
  refine ⟨Std.ReflCmp.compare_self, Std.OrientedCmp.eq_swap, ⟨?_, ?_⟩, ?_⟩
  · intro failure
    obtain ⟨low, high, greater⟩ := failure
    rcases isLE_totalOrder_trans low high with ordered | apart
    · rw [greater] at ordered
      cases ordered
    · exact ⟨apart, greater⟩
  · intro failure
    obtain ⟨⟨a, b, c, rfl, rfl, rfl, _, _, first, second⟩, greater⟩ := failure
    refine ⟨isLE_totalOrder.mpr (.inr ⟨rfl, ?_⟩), isLE_totalOrder.mpr (.inr ⟨rfl, ?_⟩), greater⟩
    · exact Ordering.isLE_of_eq_eq first
    · exact Ordering.isLE_of_eq_eq second
  · refine and_congr_right (fun low => and_congr_right (fun high => ?_))
    exact not_strictEq_iff low high

/-- The double 2^53 is equal to the integers 2^53 and 2^53 + 1, which are told apart. -/
theorem not_totalOrder_strictEq_transitive
    : ¬ ((∀ x y z : Option Json, (totalOrder x y).isLE → (totalOrder y z).isLE
          → (totalOrder x z).isLE)
        ∨ ∀ x y z : Option Json, strictEq x y → strictEq y z → strictEq x z) := by
  intro claimed
  let less : Json := .number (.int 9007199254740992 (by decide))
  let more : Json := .number (.int 9007199254740993 (by decide))
  let double : Json := .number (.double (.ofInt 9007199254740992 (by decide)))
  rcases claimed with ordered | equal
  · have greater := ordered (some more) (some double) (some less) (by decide +kernel)
      (by decide +kernel)
    revert greater
    decide +kernel
  · have same := equal (some more) (some double) (some less) (by decide +kernel) (by decide +kernel)
    revert same
    decide +kernel

end RecordQuery
