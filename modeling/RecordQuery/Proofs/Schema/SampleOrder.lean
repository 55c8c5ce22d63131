import RecordQuery.Proofs.Json.Reordering
import RecordQuery.Proofs.Schema.Exactness

/-! Inferred schemas depend on the set of the values in a sample. Samples with the same values, in
any order and any number of times, lead to the same values at every step inwards, so their schemas
have the same keywords at every position; only what is listed there is in another order.
-/

namespace RecordQuery.Schema

mutual
/-- Two schemas are the same, up to the order of fields and of what `type` and `required` list. -/
inductive IsSameSchema : Json → Json → Prop where
  | keywords {keywords middle others : List Json.Field} (inside : KeywordsAreSame keywords middle)
      (moved : middle.Perm others)
      : IsSameSchema (.object keywords) (.object others)

/-- The keywords are the same, one by one, and so is what they say. -/
inductive KeywordsAreSame : List Json.Field → List Json.Field → Prop where
  | nil : KeywordsAreSame [] []
  | cons {keyword : String} {argument other : Json} {keywords others : List Json.Field}
      (first : SaysSame keyword argument other) (more : KeywordsAreSame keywords others)
      : KeywordsAreSame ((keyword, argument) :: keywords) ((keyword, other) :: others)

/-- A keyword says the same with either argument. -/
inductive SaysSame : String → Json → Json → Prop where
  | refl (keyword : String) (argument : Json) : SaysSame keyword argument argument
  | type {names others : List Json} (moved : names.Perm others)
      : SaysSame "type" (.array names) (.array others)
  | required {names others : List Json} (moved : names.Perm others)
      : SaysSame "required" (.array names) (.array others)
  | items {schema other : Json} (inside : IsSameSchema schema other)
      : SaysSame "items" schema other
  | properties {properties middle others : List Json.Field}
      (inside : PropertiesAreSame properties middle) (moved : middle.Perm others)
      : SaysSame "properties" (.object properties) (.object others)

/-- The properties have the same names, one by one, and the same schemas. -/
inductive PropertiesAreSame : List Json.Field → List Json.Field → Prop where
  | nil : PropertiesAreSame [] []
  | cons (name : String) {schema other : Json} {properties others : List Json.Field}
      (first : IsSameSchema schema other) (more : PropertiesAreSame properties others)
      : PropertiesAreSame ((name, schema) :: properties) ((name, other) :: others)
end

/-- Two samples have the same values, in whatever order and however often. Objects whose fields are
in another order are the same value.
-/
structure HaveSameValues (values others : List Json) : Prop where
  target : ∀ value ∈ values, ∃ other ∈ others, value.IsReordering other
  source : ∀ other ∈ others, ∃ value ∈ values, value.IsReordering other

variable {values others : List Json} {value other : Json}

-----------------------------------------------------------------------------------------
-- Reordered values
-----------------------------------------------------------------------------------------

theorem kind_of_isReordering (moved : value.IsReordering other) : other.kind = value.kind := by
  cases moved <;> rfl

theorem hasField_of_isReordering (moved : value.IsReordering other) (name : String)
    : hasField name other = hasField name value := by
  cases moved with
  | refl | array => rfl
  | object inside moved =>
      rw [hasField, hasField, Bool.eq_iff_iff, Json.isSome_field?_iff, Json.isSome_field?_iff,
        ← (moved.map Prod.fst).mem_iff, inside.names]

-----------------------------------------------------------------------------------------
-- Samples with the same values
-----------------------------------------------------------------------------------------

theorem HaveSameValues.refl (values : List Json) : HaveSameValues values values :=
  ⟨fun value member => ⟨value, member, .refl value⟩,
    fun value member => ⟨value, member, .refl value⟩⟩

/-- What a value of one sample has, up to the order of fields, a value of the other one has. -/
theorem HaveSameValues.exists_iff (same : HaveSameValues values others) {has : Json → Prop}
    (kept : ∀ value other, value.IsReordering other → (has other ↔ has value))
    : (∃ value ∈ values, has value) ↔ ∃ other ∈ others, has other := by
  constructor
  · rintro ⟨value, member, held⟩
    obtain ⟨other, found, moved⟩ := same.target value member
    exact ⟨other, found, (kept _ _ moved).mpr held⟩
  · rintro ⟨other, member, held⟩
    obtain ⟨value, found, moved⟩ := same.source other member
    exact ⟨value, found, (kept _ _ moved).mp held⟩

theorem HaveSameValues.forall_iff (same : HaveSameValues values others) {has : Json → Prop}
    (kept : ∀ value other, value.IsReordering other → (has other ↔ has value))
    : (∀ value ∈ values, has value) ↔ ∀ other ∈ others, has other := by
  have negated : (∃ value ∈ values, ¬ has value) ↔ ∃ other ∈ others, ¬ has other :=
    same.exists_iff fun value other moved => not_congr (kept value other moved)
  simpa using not_congr negated

theorem HaveSameValues.nestingOfItems_eq (same : HaveSameValues values others)
    : Json.nestingOfItems others = Json.nestingOfItems values := by
  have atMost (levels : Nat)
      : Json.nestingOfItems values ≤ levels ↔ Json.nestingOfItems others ≤ levels := by
    rw [Json.nestingOfItems_le_iff, Json.nestingOfItems_le_iff]
    exact same.forall_iff fun _ _ moved => by rw [Json.nesting_of_isReordering moved]
  exact Nat.le_antisymm ((atMost _).mp (Nat.le_refl _)) ((atMost _).mpr (Nat.le_refl _))

/-- A step leads from a value and its reordering to the same values. -/
theorem haveSameValues_valuesIn (distinct : value.HasDistinctKeys)
    (moved : value.IsReordering other) (step : Step)
    : HaveSameValues (step.valuesIn value) (step.valuesIn other) := by
  cases step with
  | property name =>
      cases moved with
      | refl | array => exact .refl _
      | @object fields _ others inside moved =>
          have found := Json.rel_field?_of_isReordering distinct.1 (.object inside moved) name
          simp only [Step.valuesIn, fieldIn?]
          generalize Json.field? name fields = inner at found ⊢
          generalize Json.field? name others = inner' at found ⊢
          cases found with
          | none => exact .refl []
          | some moved => exact ⟨by simpa using moved, by simpa using moved⟩
  | item =>
      cases moved with
      | refl | object => exact .refl _
      | array inside => exact ⟨fun _ => inside.exists_other, fun _ => inside.exists_mem⟩

/-- A step leads from samples with the same values to samples with the same values. -/
theorem HaveSameValues.flatMap (same : HaveSameValues values others)
    (distinct : ∀ value ∈ values, value.HasDistinctKeys) (step : Step)
    : HaveSameValues (values.flatMap step.valuesIn) (others.flatMap step.valuesIn) := by
  constructor
  · intro inner member
    obtain ⟨value, seen, inside⟩ := List.mem_flatMap.mp member
    obtain ⟨other, found, moved⟩ := same.target value seen
    obtain ⟨inner', inside', moved'⟩ :=
      (haveSameValues_valuesIn (distinct value seen) moved step).target inner inside
    exact ⟨inner', List.mem_flatMap.mpr ⟨other, found, inside'⟩, moved'⟩
  · intro inner member
    obtain ⟨other, seen, inside⟩ := List.mem_flatMap.mp member
    obtain ⟨value, found, moved⟩ := same.source other seen
    obtain ⟨inner', inside', moved'⟩ :=
      (haveSameValues_valuesIn (distinct value found) moved step).source inner inside
    exact ⟨inner', List.mem_flatMap.mpr ⟨value, found, inside'⟩, moved'⟩

theorem hasDistinctKeys_of_mem_valuesIn (distinct : value.HasDistinctKeys) {step : Step}
    {inner : Json} (member : inner ∈ step.valuesIn value)
    : inner.HasDistinctKeys := by
  cases step with
  | property name =>
      cases value with
      | object fields =>
          have found : Json.field? name fields = some inner := Option.mem_toList.mp member
          exact Json.fieldsHaveDistinctKeys_iff.mp distinct.2 _ (Json.mem_of_field? found)
      | _ => cases member
  | item =>
      cases value with
      | array items => exact Json.itemsHaveDistinctKeys_iff.mp distinct inner member
      | _ => cases member

theorem hasDistinctKeys_flatMap (distinct : ∀ value ∈ values, value.HasDistinctKeys) (step : Step)
    : ∀ inner ∈ values.flatMap step.valuesIn, inner.HasDistinctKeys := by
  intro inner member
  obtain ⟨value, seen, inside⟩ := List.mem_flatMap.mp member
  exact hasDistinctKeys_of_mem_valuesIn (distinct value seen) inside

-----------------------------------------------------------------------------------------
-- What is listed
-----------------------------------------------------------------------------------------

theorem HaveSameValues.kinds_perm (same : HaveSameValues values others)
    : (kinds values).Perm (kinds others) := by
  refine (List.perm_ext_iff_of_nodup (Text.nodup_firstOccurrences _)
    (Text.nodup_firstOccurrences _)).mpr fun kind => ?_
  rw [← kinds, ← kinds, mem_kinds, mem_kinds]
  exact same.exists_iff fun _ _ moved => by rw [kind_of_isReordering moved]

theorem HaveSameValues.propertyNames_perm (same : HaveSameValues values others)
    : (propertyNames (objects values)).Perm (propertyNames (objects others)) := by
  refine (List.perm_ext_iff_of_nodup (Text.nodup_firstOccurrences _)
    (Text.nodup_firstOccurrences _)).mpr fun name => ?_
  rw [← propertyNames, ← propertyNames, mem_propertyNames, mem_propertyNames,
    ← exists_hasField_iff, ← exists_hasField_iff]
  exact same.exists_iff fun _ _ moved => by rw [hasField_of_isReordering moved]

theorem HaveSameValues.requiredNames_perm (same : HaveSameValues values others)
    : (requiredNames (objects values)).Perm (requiredNames (objects others)) := by
  have distinct (seen : List (List Json.Field)) : (requiredNames seen).Nodup :=
    (Text.nodup_firstOccurrences _).filter _
  refine (List.perm_ext_iff_of_nodup (distinct _) (distinct _)).mpr fun name => ?_
  rw [mem_requiredNames, mem_requiredNames, same.propertyNames_perm.mem_iff,
    ← forall_hasField_iff, ← forall_hasField_iff]
  refine and_congr_right fun _ => same.forall_iff fun _ _ moved => ?_
  rw [kind_of_isReordering moved, hasField_of_isReordering moved]

theorem HaveSameValues.isEmpty_objects (same : HaveSameValues values others)
    : (objects values).isEmpty = (objects others).isEmpty := by
  have some : (∃ fields, fields ∈ objects values) ↔ ∃ fields, fields ∈ objects others := by
    rw [← exists_object_iff, ← exists_object_iff]
    exact same.exists_iff fun _ _ moved => by rw [kind_of_isReordering moved]
  rw [Bool.eq_iff_iff, List.isEmpty_iff, List.isEmpty_iff, List.eq_nil_iff_forall_not_mem,
    List.eq_nil_iff_forall_not_mem]
  simpa using not_congr some

theorem HaveSameValues.isEmpty_arrays (same : HaveSameValues values others)
    : (arrays values).isEmpty = (arrays others).isEmpty := by
  have some : arrays values ≠ [] ↔ arrays others ≠ [] := by
    rw [← exists_array_iff, ← exists_array_iff]
    exact same.exists_iff fun _ _ moved => by rw [kind_of_isReordering moved]
  rw [Bool.eq_iff_iff, List.isEmpty_iff, List.isEmpty_iff]
  exact Decidable.not_iff_not.mp some

-----------------------------------------------------------------------------------------
-- The same keywords
-----------------------------------------------------------------------------------------

theorem KeywordsAreSame.append {first first' rest rest' : List Json.Field}
    (same : KeywordsAreSame first first') (more : KeywordsAreSame rest rest')
    : KeywordsAreSame (first ++ rest) (first' ++ rest') := by
  induction first generalizing first' with
  | nil =>
      cases same
      exact more
  | cons field others ih =>
      cases same with
      | cons head later => exact .cons head (ih later)

theorem HaveSameValues.typeFields (same : HaveSameValues values others)
    : KeywordsAreSame (typeFields values) (typeFields others) := by
  have moved := same.kinds_perm
  unfold Schema.typeFields
  generalize kinds values = seen at moved ⊢
  generalize kinds others = seen' at moved ⊢
  rcases seen with _ | ⟨kind, _ | ⟨second, rest⟩⟩
  · obtain rfl := moved.nil_eq
    exact .nil
  · obtain rfl := moved.singleton_eq
    exact .cons (.refl _ _) .nil
  · -- several kinds are several in any order
    rcases seen' with _ | ⟨kind', _ | ⟨second', rest'⟩⟩
    · cases moved.length_eq
    · simp at moved
    · exact .cons (.type (moved.map _)) .nil

variable {describe : List Json → Json}

/-- Properties of the same names are the same, if the values under each name are told of alike. -/
theorem propertiesAreSame_map {describe describe' : String → Json} (names : List String)
    (same : ∀ name, IsSameSchema (describe name) (describe' name))
    : PropertiesAreSame (names.map fun name => (name, describe name))
        (names.map fun name => (name, describe' name)) := by
  induction names with
  | nil => exact .nil
  | cons name rest ih => exact .cons name (same name) ih

theorem HaveSameValues.objectFields (same : HaveSameValues values others)
    (inside : ∀ name, IsSameSchema (describe (propertyValues name (objects values)))
      (describe (propertyValues name (objects others))))
    : KeywordsAreSame (objectFields describe (objects values))
        (objectFields describe (objects others)) := by
  have required := same.requiredNames_perm
  have properties : SaysSame "properties"
      (.object ((propertyNames (objects values)).map fun name =>
        (name, describe (propertyValues name (objects values)))))
      (.object ((propertyNames (objects others)).map fun name =>
        (name, describe (propertyValues name (objects others))))) :=
    .properties (propertiesAreSame_map _ inside) (same.propertyNames_perm.map _)
  have empty : (requiredNames (objects values)).isEmpty
      = (requiredNames (objects others)).isEmpty := by
    rw [Bool.eq_iff_iff, List.isEmpty_iff, List.isEmpty_iff]
    exact ⟨fun none => (none ▸ required).nil_eq.symm, fun none => (none ▸ required).eq_nil⟩
  unfold Schema.objectFields
  rw [same.isEmpty_objects]
  split
  · exact .nil
  · refine .cons properties ?_
    rw [empty]
    split
    · exact .nil
    · exact .cons (.required (required.map _)) .nil

theorem HaveSameValues.arrayFields (same : HaveSameValues values others)
    (inside : IsSameSchema (describe (arrays values).flatten) (describe (arrays others).flatten))
    : KeywordsAreSame (arrayFields describe (arrays values))
        (arrayFields describe (arrays others)) := by
  unfold Schema.arrayFields
  rw [same.isEmpty_arrays]
  split
  · exact .nil
  · exact .cons (.items inside) .nil

/-- Samples with the same values are told of alike, by induction on the levels that are told of. -/
theorem HaveSameValues.fieldsTo (same : HaveSameValues values others)
    (distinct : ∀ value ∈ values, value.HasDistinctKeys) (levels : Nat)
    : KeywordsAreSame (fieldsTo levels values) (fieldsTo levels others) := by
  induction levels generalizing values others with
  | zero => exact same.typeFields
  | succ levels ih =>
      have inside (step : Step)
          : IsSameSchema (.object (Schema.fieldsTo levels (values.flatMap step.valuesIn)))
              (.object (Schema.fieldsTo levels (others.flatMap step.valuesIn))) :=
        .keywords (ih (same.flatMap distinct step) (hasDistinctKeys_flatMap distinct step)) .rfl
      refine .append (.append same.typeFields (same.objectFields fun name => ?_))
        (same.arrayFields ?_)
      · simpa only [flatMap_property] using inside (.property name)
      · simpa only [flatMap_item] using inside .item

/-- Samples with the same values, in whatever order and however often, have the same schema, up to
the order of its fields and of the kinds and the required names that it lists.
-/
theorem infer_isSameSchema (title : String) (sample others : List Json)
    (distinct : ∀ value ∈ sample, value.HasDistinctKeys) (same : HaveSameValues sample others)
    : IsSameSchema (infer title sample) (infer title others) := by
  have told : KeywordsAreSame (fields sample) (fields others) := by
    rw [fields, fields, same.nestingOfItems_eq]
    exact same.fieldsTo distinct _
  rw [infer_eq, infer_eq]
  have items := told.append (.cons (.refl "title" (.string title)) .nil)
  exact .keywords (.cons (.refl _ _) (.cons (.refl _ _) (.cons (.refl _ _)
    (.cons (.items (.keywords items .rfl)) .nil)))) .rfl

/-- A text that is there once more, and an object with its fields in another order, change the order
of kinds, of properties and of required names.
-/
theorem infer_isSameSchema_repeated
    : let one := Json.number (.nearestInt 1)
      let first := Json.object [("id", one), ("tags", .array [])]
      let second := Json.object [("tags", .array [one, .null]), ("id", .string "2")]
      let second' := Json.object [("id", .string "2"), ("tags", .array [one, .null])]
      let sample := [second, first, .string "3"]
      let others := [.string "3", first, second', .string "3"]
      (∀ value ∈ sample, value.HasDistinctKeys) ∧ HaveSameValues sample others
      ∧ infer "data" sample ≠ infer "data" others
      ∧ IsSameSchema (infer "data" sample) (infer "data" others) := by
  intro one first second second' sample others
  have distinct : ∀ value ∈ sample, value.HasDistinctKeys := by
    simp [sample, first, second, one, Json.HasDistinctKeys, Json.ItemsHaveDistinctKeys,
      Json.FieldsHaveDistinctKeys]
  have moved : second.IsReordering second' :=
    .object (.cons "tags" (.refl _) (.cons "id" (.refl _) .nil)) (.swap _ _ _)
  have same : HaveSameValues sample others := by
    constructor
    · simp only [sample, others, List.forall_mem_cons, List.not_mem_nil, false_implies,
        implies_true, and_true]
      exact ⟨⟨second', by simp, moved⟩, ⟨first, by simp, .refl _⟩, ⟨.string "3", by simp, .refl _⟩⟩
    · simp only [sample, others, List.forall_mem_cons, List.not_mem_nil, false_implies,
        implies_true, and_true]
      exact ⟨⟨.string "3", by simp, .refl _⟩, ⟨first, by simp, .refl _⟩, ⟨second, by simp, moved⟩,
        ⟨.string "3", by simp, .refl _⟩⟩
  exact ⟨distinct, same, by decide +kernel, infer_isSameSchema "data" sample others distinct same⟩

end RecordQuery.Schema
