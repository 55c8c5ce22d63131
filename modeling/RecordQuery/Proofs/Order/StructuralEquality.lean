import Mathlib.Data.List.Perm.Subperm
import RecordQuery.Proofs.Json.Reordering
import RecordQuery.Proofs.Order.Transitivity

/-! Equality of values, as a relation. Where the objects in the values have distinct names it is
reflexive and symmetric, and it does not see the order of fields, at whatever depth. It looks up the
fields of one object in the other one only; but there are as many names on both sides and all are
distinct, so that the names are the same.
-/

namespace RecordQuery

namespace Json

variable {x y x' : Json} {items others ys : List Json} {fields middle zs : List Field}

-----------------------------------------------------------------------------------------
-- A value and itself
-----------------------------------------------------------------------------------------

theorem sameItems_self (same : ∀ item ∈ items, item.sameValue item) : sameItems items items := by
  induction items with
  | nil => rfl
  | cons item rest ih =>
      rw [List.forall_mem_cons] at same
      rw [sameItems, same.1, ih same.2]
      rfl

/-- A value is equal to itself, by induction on the value. -/
theorem sameValue_self (distinct : x.HasDistinctKeys) : x.sameValue x := by
  induction x using inductionOn with
  | null => rfl
  | bool truth => exact sameValue_bool.mpr rfl
  | string s => exact sameValue_string.mpr rfl
  | number n => exact sameValue_number.mpr ⟨n, rfl, Std.ReflCmp.compare_self⟩
  | array items ih =>
      refine sameValue_array.mpr ⟨items, rfl, sameItems_self fun item member => ih item member ?_⟩
      exact itemsHaveDistinctKeys_iff.mp distinct item member
  | object fields ih =>
      obtain ⟨names, inside⟩ := distinct
      refine sameValue_object.mpr ⟨fields, rfl, rfl, sameFields_iff.mpr fun name value member => ?_⟩
      refine ⟨value, (field?_eq_some_iff names).mpr member, ih _ member ?_⟩
      exact fieldsHaveDistinctKeys_iff.mp inside _ member

-----------------------------------------------------------------------------------------
-- The sides changed
-----------------------------------------------------------------------------------------

theorem sameItems_symm (turned : ∀ x ∈ items, ∀ y ∈ ys, x.sameValue y → y.sameValue x)
    (same : sameItems items ys)
    : sameItems ys items := by
  induction items generalizing ys with
  | nil =>
      cases ys with
      | nil => rfl
      | cons y rest => cases same
  | cons x more ih =>
      cases ys with
      | nil => cases same
      | cons y rest =>
          rw [sameItems, Bool.and_eq_true] at same ⊢
          refine ⟨turned x List.mem_cons_self y List.mem_cons_self same.1, ih ?_ same.2⟩
          exact fun x first y second =>
            turned x (List.mem_cons_of_mem _ first) y (List.mem_cons_of_mem _ second)

/-- As many distinct names, all of which are found on the other side, are the names there. -/
theorem names_perm_of_sameFields (distinct : (fields.map Prod.fst).Nodup)
    (length : fields.length = zs.length) (same : sameFields fields zs)
    : (fields.map Prod.fst).Perm (zs.map Prod.fst) := by
  have within : fields.map Prod.fst ⊆ zs.map Prod.fst := by
    intro name member
    obtain ⟨⟨_, value⟩, found, rfl⟩ := List.mem_map.mp member
    obtain ⟨other, there, _⟩ := sameFields_iff.mp same _ value found
    exact List.mem_map.mpr ⟨_, mem_of_field? there, rfl⟩
  refine (List.subperm_of_subset distinct within).perm_of_length_le (Nat.le_of_eq ?_)
  rw [List.length_map, List.length_map, length]

theorem sameFields_symm (distinct : (fields.map Prod.fst).Nodup)
    (distinct' : (zs.map Prod.fst).Nodup) (length : fields.length = zs.length)
    (turned : ∀ x ∈ fields, ∀ y ∈ zs, x.2.sameValue y.2 → y.2.sameValue x.2)
    (same : sameFields fields zs)
    : sameFields zs fields := by
  refine sameFields_iff.mpr fun name y member => ?_
  have named : name ∈ fields.map Prod.fst :=
    (names_perm_of_sameFields distinct length same).mem_iff.mpr (List.mem_map_of_mem member)
  obtain ⟨⟨_, x⟩, found, rfl⟩ := List.mem_map.mp named
  obtain ⟨y', there, equal⟩ := sameFields_iff.mp same _ x found
  rw [(field?_eq_some_iff distinct').mpr member] at there
  cases there
  exact ⟨x, (field?_eq_some_iff distinct).mpr found, turned _ found _ member equal⟩

/-- Equality of values can be turned round, by induction on one of them. -/
theorem sameValue_symm (distinct : x.HasDistinctKeys) (distinct' : y.HasDistinctKeys)
    (same : x.sameValue y)
    : y.sameValue x := by
  induction x using inductionOn generalizing y with
  | null =>
      cases sameValue_null.mp same
      rfl
  | bool truth =>
      cases sameValue_bool.mp same
      exact sameValue_bool.mpr rfl
  | string s =>
      cases sameValue_string.mp same
      exact sameValue_string.mpr rfl
  | number m =>
      obtain ⟨n, rfl, equal⟩ := sameValue_number.mp same
      exact sameValue_number.mpr ⟨m, rfl, Std.OrientedCmp.eq_symm equal⟩
  | array items ih =>
      obtain ⟨ys, rfl, same⟩ := sameValue_array.mp same
      refine sameValue_array.mpr ⟨items, rfl, sameItems_symm (fun x first y second => ?_) same⟩
      exact ih x first (itemsHaveDistinctKeys_iff.mp distinct x first)
        (itemsHaveDistinctKeys_iff.mp distinct' y second)
  | object fields ih =>
      obtain ⟨zs, rfl, length, same⟩ := sameValue_object.mp same
      refine sameValue_object.mpr ⟨fields, rfl, length.symm, ?_⟩
      refine sameFields_symm distinct.1 distinct'.1 length (fun x first y second => ?_) same
      exact ih x first (fieldsHaveDistinctKeys_iff.mp distinct.2 x first)
        (fieldsHaveDistinctKeys_iff.mp distinct'.2 y second)

theorem sameValue_comm (distinct : x.HasDistinctKeys) (distinct' : y.HasDistinctKeys)
    : x.sameValue y = y.sameValue x :=
  Bool.eq_iff_iff.mpr ⟨sameValue_symm distinct distinct', sameValue_symm distinct' distinct⟩

-----------------------------------------------------------------------------------------
-- The order of fields
-----------------------------------------------------------------------------------------

theorem sameItems_of_areReorderings
    (kept : ∀ item ∈ items, ∀ other, IsReordering item other
      → ∀ y, other.sameValue y = item.sameValue y)
    (inside : ItemsAreReorderings items others) (ys : List Json)
    : sameItems others ys = sameItems items ys := by
  induction items generalizing others ys with
  | nil =>
      cases inside
      rfl
  | cons item rest ih =>
      rw [List.forall_mem_cons] at kept
      cases inside with
      | cons first more =>
          cases ys with
          | nil => rfl
          | cons y ys => rw [sameItems, sameItems, kept.1 _ first, ih kept.2 more]

theorem sameFields_of_areReorderings
    (kept : ∀ field ∈ fields, ∀ other, IsReordering field.2 other
      → ∀ y, other.sameValue y = field.2.sameValue y)
    (inside : FieldsAreReorderings fields middle) (zs : List Field)
    : sameFields middle zs = sameFields fields zs := by
  induction fields generalizing middle with
  | nil =>
      cases inside
      rfl
  | cons field rest ih =>
      rw [List.forall_mem_cons] at kept
      cases inside with
      | cons name first more =>
          rw [sameFields, sameFields, ih kept.2 more]
          simp only [kept.1 _ first]

theorem sameFields_of_perm {more : List Field} (moved : middle.Perm more) (zs : List Field)
    : sameFields more zs = sameFields middle zs := by
  rw [Bool.eq_iff_iff, sameFields_iff, sameFields_iff]
  simp only [moved.mem_iff]

/-- Reordering one side changes nothing, by induction on the value. -/
theorem sameValue_of_isReordering (moved : IsReordering x x') (y : Json)
    : x'.sameValue y = x.sameValue y := by
  induction x using inductionOn generalizing x' y with
  | null | bool _ | number _ | string _ =>
      cases moved
      rfl
  | array items ih =>
      cases moved with
      | refl => rfl
      | array inside =>
          rw [Bool.eq_iff_iff, sameValue_array, sameValue_array]
          simp only [sameItems_of_areReorderings (fun item member _ => ih item member) inside]
  | object fields ih =>
      cases moved with
      | refl => rfl
      | @object _ middle others inside moved =>
          have length : others.length = fields.length := by
            rw [← moved.length_eq, ← List.length_map Prod.fst, inside.names, List.length_map]
          rw [Bool.eq_iff_iff, sameValue_object, sameValue_object]
          simp only [length, sameFields_of_perm moved,
            sameFields_of_areReorderings (fun field member _ => ih field member) inside]

end Json

/-- Equality of values whose objects have distinct names: every value is equal to itself, the sides
can be changed, and the order of fields does not matter, anywhere inside either value.
-/
theorem strictEq_refl_symm_reordering (x y : Json) (distinct : x.HasDistinctKeys)
    (distinct' : y.HasDistinctKeys)
    : strictEq (some x) (some x)
      ∧ strictEq (some x) (some y) = strictEq (some y) (some x)
      ∧ ∀ x' y', x.IsReordering x' → y.IsReordering y'
        → strictEq (some x') (some y') = strictEq (some x) (some y) := by
  refine ⟨Json.sameValue_self distinct, Json.sameValue_comm distinct distinct', ?_⟩
  intro x' y' moved moved'
  calc
    x'.sameValue y' = x.sameValue y' := Json.sameValue_of_isReordering moved y'
    _ = y'.sameValue x := Json.sameValue_comm distinct (distinct'.of_isReordering moved')
    _ = y.sameValue x := Json.sameValue_of_isReordering moved' x
    _ = x.sameValue y := Json.sameValue_comm distinct' distinct

/-- Two objects with the same fields in another order, at two depths, and an integer beside a double.
-/
theorem strictEq_refl_symm_reordering_nested
    : let one := Json.number (.nearestInt 1)
      let double := Json.number (.double (.ofInt 1 (by decide)))
      let x := Json.object [("a", .array [one, .object [("b", .null), ("c", .bool true)]]), ("d", one)]
      let x' := Json.object
        [("d", one), ("a", .array [one, .object [("c", .bool true), ("b", .null)]])]
      let y := Json.object
        [("a", .array [one, .object [("b", .null), ("c", .bool true)]]), ("d", double)]
      x.HasDistinctKeys ∧ y.HasDistinctKeys ∧ x.IsReordering x' ∧ x' ≠ x
      ∧ strictEq (some x') (some y) = strictEq (some x) (some y)
      ∧ strictEq (some y) (some x) := by
  intro one double x x' y
  have distinct : x.HasDistinctKeys := by
    simp [x, Json.HasDistinctKeys, Json.ItemsHaveDistinctKeys, Json.FieldsHaveDistinctKeys, one]
  have distinct' : y.HasDistinctKeys := by
    simp [y, Json.HasDistinctKeys, Json.ItemsHaveDistinctKeys, Json.FieldsHaveDistinctKeys, one,
      double]
  have moved : x.IsReordering x' := by
    refine .object (.cons "a" (.array (.cons (.refl one) (.cons ?_ .nil)))
      (.cons "d" (.refl one) .nil)) (.swap _ _ _)
    exact .object (.cons "b" (.refl _) (.cons "c" (.refl _) .nil)) (.swap _ _ _)
  obtain ⟨_, turned, kept⟩ := strictEq_refl_symm_reordering x y distinct distinct'
  exact ⟨distinct, distinct', moved, by decide, kept x' y moved (.refl y),
    turned.symm.trans (by decide +kernel)⟩

end RecordQuery
