import RecordQuery.Proofs.Json.Fields
import RecordQuery.Proofs.Json.Nesting

/-! Values that are the same up to the order of the fields of objects. Two values are so if they
agree wherever names lead in them: there they have the same value, or both have objects with distinct
names.
-/

namespace RecordQuery.Json

mutual
/-- One value is the other with the fields of objects in another order, at any depth. -/
inductive IsReordering : Json → Json → Prop where
  | refl (value : Json) : IsReordering value value
  | array {items others : List Json} (inside : ItemsAreReorderings items others)
    : IsReordering (.array items) (.array others)
  | object {fields middle others : List Field} (inside : FieldsAreReorderings fields middle)
      (moved : middle.Perm others)
    : IsReordering (.object fields) (.object others)

/-- `IsReordering`, item by item. -/
inductive ItemsAreReorderings : List Json → List Json → Prop where
  | nil : ItemsAreReorderings [] []
  | cons {item other : Json} {items others : List Json} (first : IsReordering item other)
      (more : ItemsAreReorderings items others)
    : ItemsAreReorderings (item :: items) (other :: others)

/-- `IsReordering` of the values of fields, field by field; the names are the same. -/
inductive FieldsAreReorderings : List Field → List Field → Prop where
  | nil : FieldsAreReorderings [] []
  | cons (name : String) {value other : Json} {fields others : List Field}
      (first : IsReordering value other) (more : FieldsAreReorderings fields others)
    : FieldsAreReorderings ((name, value) :: fields) ((name, other) :: others)
end

-----------------------------------------------------------------------------------------
-- Distinct names
-----------------------------------------------------------------------------------------

theorem ItemsAreReorderings.exists_mem {items others : List Json} {other : Json}
    (inside : ItemsAreReorderings items others) (member : other ∈ others)
    : ∃ item ∈ items, IsReordering item other := by
  induction items generalizing others with
  | nil =>
      cases inside
      cases member
  | cons item rest ih =>
      cases inside with
      | cons first more =>
          rcases List.mem_cons.mp member with rfl | later
          · exact ⟨item, List.mem_cons_self, first⟩
          · obtain ⟨source, found, moved⟩ := ih more later
            exact ⟨source, List.mem_cons_of_mem _ found, moved⟩

theorem FieldsAreReorderings.exists_mem {fields others : List Field} {other : Field}
    (inside : FieldsAreReorderings fields others) (member : other ∈ others)
    : ∃ field ∈ fields, IsReordering field.2 other.2 := by
  induction fields generalizing others with
  | nil =>
      cases inside
      cases member
  | cons field rest ih =>
      cases inside with
      | cons name first more =>
          rcases List.mem_cons.mp member with rfl | later
          · exact ⟨_, List.mem_cons_self, first⟩
          · obtain ⟨source, found, moved⟩ := ih more later
            exact ⟨source, List.mem_cons_of_mem _ found, moved⟩

theorem FieldsAreReorderings.names {fields others : List Field}
    (inside : FieldsAreReorderings fields others)
    : others.map Prod.fst = fields.map Prod.fst := by
  induction fields generalizing others with
  | nil =>
      cases inside
      rfl
  | cons field rest ih =>
      cases inside with
      | cons name first more => rw [List.map_cons, List.map_cons, ih more]

theorem ItemsAreReorderings.exists_other {items others : List Json} {item : Json}
    (inside : ItemsAreReorderings items others) (member : item ∈ items)
    : ∃ other ∈ others, IsReordering item other := by
  induction items generalizing others with
  | nil => cases member
  | cons first rest ih =>
      cases inside with
      | @cons _ other _ _ first more =>
          rcases List.mem_cons.mp member with rfl | later
          · exact ⟨other, List.mem_cons_self, first⟩
          · obtain ⟨target, found, moved⟩ := ih more later
            exact ⟨target, List.mem_cons_of_mem _ found, moved⟩

/-- Reordering keeps the names of fields distinct, by induction on the value. -/
theorem HasDistinctKeys.of_isReordering {value other : Json} (distinct : value.HasDistinctKeys)
    (moved : IsReordering value other)
    : other.HasDistinctKeys := by
  induction value using inductionOn generalizing other with
  | null | bool _ | number _ | string _ =>
      cases moved
      exact distinct
  | array items ih =>
      cases moved with
      | refl => exact distinct
      | array inside =>
          refine itemsHaveDistinctKeys_iff.mpr fun other member => ?_
          obtain ⟨item, found, moved⟩ := inside.exists_mem member
          exact ih item found (itemsHaveDistinctKeys_iff.mp distinct item found) moved
  | object fields ih =>
      cases moved with
      | refl => exact distinct
      | object inside moved =>
          refine ⟨?_, fieldsHaveDistinctKeys_iff.mpr fun other member => ?_⟩
          · rw [← (moved.map Prod.fst).nodup_iff, inside.names]
            exact distinct.1
          · obtain ⟨field, found, moved⟩ := inside.exists_mem (moved.mem_iff.mpr member)
            exact ih field found (fieldsHaveDistinctKeys_iff.mp distinct.2 field found) moved

-----------------------------------------------------------------------------------------
-- Objects whose fields are reorderings, name by name
-----------------------------------------------------------------------------------------

/-- Fields with distinct names whose values are reorderings, name by name, are so in the order of
the others. The proof is by induction on the fields; each takes its own out of the others.
-/
theorem exists_fieldsAreReorderings {fields others : List Field}
    (distinct : (fields.map Prod.fst).Nodup) (distinct' : (others.map Prod.fst).Nodup)
    (byName : ∀ name, Option.Rel IsReordering (field? name fields) (field? name others))
    : ∃ middle, FieldsAreReorderings fields middle ∧ middle.Perm others := by
  induction fields generalizing others with
  | nil =>
      cases others with
      | nil => exact ⟨[], .nil, .rfl⟩
      | cons field rest => simpa [field?] using byName field.1
  | cons field rest ih =>
      obtain ⟨name, value⟩ := field
      have here := byName name
      cases found : field? name others with
      | none => simp [field?, found] at here
      | some other =>
          simp only [field?, found, ↓reduceIte] at here
          obtain ⟨before, after, rfl⟩ := List.append_of_mem (mem_of_field? found)
          have moved : (before ++ (name, other) :: after).Perm ((name, other) :: (before ++ after)) :=
            List.perm_middle
          rw [List.map_cons, List.nodup_cons] at distinct
          rw [(moved.map Prod.fst).nodup_iff, List.map_cons, List.nodup_cons] at distinct'
          obtain ⟨middle, inside, perm⟩ := ih distinct.2 distinct'.2 fun key => by
            by_cases same : key = name
            · subst same
              rw [field?_eq_none_iff.mpr distinct.1, field?_eq_none_iff.mpr distinct'.1]
              exact .none
            · have elsewhere := byName key
              simp only [field?, field?_append, Ne.symm same, ↓reduceIte] at elsewhere
              rwa [field?_append]
          cases here with
          | some first =>
              exact ⟨(name, other) :: middle, .cons name first inside,
                (perm.cons (name, other)).trans moved.symm⟩

theorem isReordering_object {fields others : List Field}
    (distinct : (fields.map Prod.fst).Nodup) (distinct' : (others.map Prod.fst).Nodup)
    (byName : ∀ name, Option.Rel IsReordering (field? name fields) (field? name others))
    : IsReordering (.object fields) (.object others) := by
  obtain ⟨middle, inside, moved⟩ := exists_fieldsAreReorderings distinct distinct' byName
  exact .object inside moved

theorem FieldsAreReorderings.rel_field? {fields middle : List Field}
    (inside : FieldsAreReorderings fields middle) (name : String)
    : Option.Rel IsReordering (field? name fields) (field? name middle) := by
  induction fields generalizing middle with
  | nil =>
      cases inside
      exact .none
  | cons field rest ih =>
      cases inside with
      | cons key first more =>
          rw [field?, field?]
          split
          · exact .some first
          · exact ih more

/-- An object and its reordering have reorderings under each name, if the names are distinct. -/
theorem rel_field?_of_isReordering {fields others : List Field}
    (distinct : (fields.map Prod.fst).Nodup) (moved : IsReordering (.object fields) (.object others))
    (name : String)
    : Option.Rel IsReordering (field? name fields) (field? name others) := by
  cases moved with
  | refl =>
      cases field? name fields with
      | none => exact .none
      | some value => exact .some (.refl value)
  | @object _ middle _ inside moved =>
      rw [← inside.names] at distinct
      have distinct' : (others.map Prod.fst).Nodup := (moved.map Prod.fst).nodup_iff.mp distinct
      have same : field? name others = field? name middle := by
        ext value
        rw [field?_eq_some_iff distinct', field?_eq_some_iff distinct, moved.mem_iff]
      rw [same]
      exact inside.rel_field? name

-----------------------------------------------------------------------------------------
-- Values that agree wherever names lead
-----------------------------------------------------------------------------------------

/-- Names lead to the same value in both, or nowhere, or to two objects with distinct names. -/
def AgreeAt (value other : Json) (names : List String) : Prop :=
  value.follow? names = other.follow? names
  ∨ ∃ fields others, value.follow? names = some (.object fields)
    ∧ other.follow? names = some (.object others)
    ∧ (fields.map Prod.fst).Nodup ∧ (others.map Prod.fst).Nodup

/-- Values that agree wherever names lead are reorderings of each other, by recursion on the first.
-/
theorem isReordering_of_agreeAt (value other : Json) (agree : ∀ names, AgreeAt value other names)
    : IsReordering value other := by
  rcases agree [] with same | ⟨fields, others, here, there, distinct, distinct'⟩
  · cases same
    exact .refl value
  · cases here
    cases there
    apply isReordering_object distinct distinct'
    intro name
    cases found : field? name fields with
    | none =>
        cases found' : field? name others with
        | none => exact .none
        | some inner' => simpa [AgreeAt, found, found'] using agree [name]
    | some inner =>
        cases found' : field? name others with
        | none => simpa [AgreeAt, found, found'] using agree [name]
        | some inner' =>
            have smaller : sizeOf inner < sizeOf (object fields) :=
              sizeOf_lt_of_mem_fields (mem_of_field? found)
            refine .some (isReordering_of_agreeAt inner inner' fun names => ?_)
            simpa only [AgreeAt, follow?_object, found, found', Option.bind_some]
              using agree (name :: names)
termination_by sizeOf value

-----------------------------------------------------------------------------------------
-- Levels of nesting
-----------------------------------------------------------------------------------------

theorem nestingOfItems_congr {values others : List Json} (inside : ItemsAreReorderings values others)
    (same : ∀ value ∈ values, ∀ other, value.IsReordering other → nesting other = nesting value)
    : nestingOfItems others = nestingOfItems values := by
  induction values generalizing others with
  | nil =>
      cases inside
      rfl
  | cons value rest ih =>
      rw [List.forall_mem_cons] at same
      cases inside with
      | cons first more => rw [nestingOfItems, nestingOfItems, same.1 _ first, ih more same.2]

theorem nestingOfFields_congr {fields middle : List Field}
    (inside : FieldsAreReorderings fields middle)
    (same : ∀ field ∈ fields, ∀ other, field.2.IsReordering other
      → nesting other = nesting field.2)
    : nestingOfFields middle = nestingOfFields fields := by
  induction fields generalizing middle with
  | nil =>
      cases inside
      rfl
  | cons field rest ih =>
      rw [List.forall_mem_cons] at same
      cases inside with
      | cons name first more =>
          rw [nestingOfFields, nestingOfFields, same.1 _ first, ih more same.2]

theorem nestingOfFields_perm {fields others : List Field} (moved : fields.Perm others)
    : nestingOfFields others = nestingOfFields fields := by
  apply Nat.le_antisymm
  · exact nestingOfFields_le_iff.mpr fun field member =>
      nestingOfFields_le_iff.mp (Nat.le_refl _) field (moved.mem_iff.mpr member)
  · exact nestingOfFields_le_iff.mpr fun field member =>
      nestingOfFields_le_iff.mp (Nat.le_refl _) field (moved.mem_iff.mp member)

/-- Reordering keeps the levels of a value, by induction on it. -/
theorem nesting_of_isReordering {value other : Json} (moved : value.IsReordering other)
    : nesting other = nesting value := by
  induction value using inductionOn generalizing other with
  | null | bool _ | number _ | string _ =>
      cases moved
      rfl
  | array items ih =>
      cases moved with
      | refl => rfl
      | array inside =>
          rw [nesting, nesting, nestingOfItems_congr inside fun item member _ => ih item member]
  | object fields ih =>
      cases moved with
      | refl => rfl
      | object inside moved =>
          rw [nesting, nesting, nestingOfFields_perm moved,
            nestingOfFields_congr inside fun field member _ => ih field member]

end RecordQuery.Json
