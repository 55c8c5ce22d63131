import RecordQuery.Proofs.Json.Fields
import RecordQuery.Proofs.Schema.Conformance

/-! What inferred schemas tell of the values at each position of a sample. A position is reached by
steps into properties and into the items of arrays; the schema there tells exactly what was seen: the
kinds of values, the properties of objects with those that all of them have, and whether there were
arrays.
-/

namespace RecordQuery.Schema

/-- A step from values to the values inside them. -/
inductive Step where
  | property (name : String)
  | item

/-- The value of a field, none for a value that is no object. -/
def fieldIn? (name : String) : Json → Option Json
  | .object fields => Json.field? name fields
  | _ => none

/-- The values that a step leads to from a value. -/
def Step.valuesIn : Step → Json → List Json
  | .property name, value => (fieldIn? name value).toList
  | .item, .array items => items
  | .item, _ => []

/-- The schema that a step leads to from a schema. -/
def Step.schemaIn? : Step → Json → Option Json
  | .property name, schema => (fieldIn? "properties" schema).bind (fieldIn? name)
  | .item, schema => fieldIn? "items" schema

/-- The values at a position, reached by its steps from some values. -/
def valuesAt : List Step → List Json → List Json
  | [], values => values
  | step :: rest, values => valuesAt rest (values.flatMap step.valuesIn)

/-- The schema at a position, reached by its steps from a schema. -/
def schemaAt? : List Step → Json → Option Json
  | [], schema => some schema
  | step :: rest, schema => (step.schemaIn? schema).bind (schemaAt? rest)

/-- A schema tells exactly what some values are: a kind is listed where one of them has it, a name is
a property where an object among them has it and required where there are objects and all have it,
and items are told of where there are arrays.
-/
structure IsExact (schema : Json) (values : List Json) : Prop where
  kinds : ∀ kind, (fieldIn? "type" schema).any (listsKind kind) ↔ ∃ value ∈ values, value.kind = kind
  properties : ∀ name,
    ((Step.property name).schemaIn? schema).isSome ↔ ∃ value ∈ values, hasField name value
  required : ∀ name, (fieldIn? "required" schema).any (listsName name)
    ↔ (∃ value ∈ values, value.kind = .object)
      ∧ ∀ value ∈ values, value.kind = .object → hasField name value
  items : (fieldIn? "items" schema).isSome ↔ ∃ value ∈ values, value.kind = .array

/-- A schema is exact at a position, or it has no schema there and no value is there. -/
def IsExactAt (position : List Step) (schema : Json) (values : List Json) : Prop :=
  match schemaAt? position schema with
  | some inner => IsExact inner (valuesAt position values)
  | none => valuesAt position values = []

/-- A schema has the keywords that tell of some values, given how the values inside are told of. -/
structure Tells (schema : Json) (describe : List Json → Json) (values : List Json) : Prop where
  type : fieldIn? "type" schema = Json.field? "type" (typeFields values)
  properties : fieldIn? "properties" schema
    = Json.field? "properties" (objectFields describe (objects values))
  required : fieldIn? "required" schema
    = Json.field? "required" (objectFields describe (objects values))
  items : fieldIn? "items" schema = Json.field? "items" (arrayFields describe (arrays values))

-----------------------------------------------------------------------------------------
-- Keywords
-----------------------------------------------------------------------------------------

variable {values : List Json} {levels : Nat} {describe : List Json → Json}

/-- A schema tells of its values, whatever else it has that is none of the keywords. -/
theorem tells_fieldsTo (fits : Json.nestingOfItems values ≤ levels) (more : List Json.Field)
    (apart : ∀ keyword ∈ ["type", "properties", "required", "items"],
      Json.field? keyword more = none)
    : Tells (.object (fieldsTo levels values ++ more)) (describeTo (levels - 1)) values := by
  constructor
  all_goals
    rw [fieldIn?, fieldsTo_eq fits, Json.field?_append, apart _ (by simp)]
    simp [Json.field?_append, field?_typeFields, field?_objectFields, field?_arrayFields]

-----------------------------------------------------------------------------------------
-- One position
-----------------------------------------------------------------------------------------

theorem name_inj {kind other : Json.Kind} : kind.name = other.name ↔ kind = other := by
  constructor
  · cases kind <;> cases other <;> decide
  · exact congrArg _

theorem any_listsKind_typeFields {kind : Json.Kind}
    : (Json.field? "type" (typeFields values)).any (listsKind kind) ↔ kind ∈ kinds values := by
  unfold typeFields
  split
  · next none => simp [Json.field?, none]
  · next only seen => simp [Json.field?, listsKind, seen, name_inj, eq_comm]
  · simp [Json.field?, listsKind, name_inj]

theorem mem_propertyNames {name : String} {seen : List (List Json.Field)}
    : name ∈ propertyNames seen ↔ ∃ fields ∈ seen, (Json.field? name fields).isSome := by
  simp only [propertyNames, Text.mem_firstOccurrences, List.mem_flatMap, Json.isSome_field?_iff]

theorem bind_properties {name : String} {seen : List (List Json.Field)}
    : (Json.field? "properties" (objectFields describe seen)).bind (fieldIn? name)
      = if name ∈ propertyNames seen then some (describe (propertyValues name seen)) else none := by
  unfold objectFields
  split
  · next none =>
      rw [List.isEmpty_iff.mp none]
      rfl
  · simp [Json.field?, fieldIn?, Json.field?_map]

theorem any_listsName_required {name : String} {seen : List (List Json.Field)}
    : (Json.field? "required" (objectFields describe seen)).any (listsName name)
      ↔ name ∈ requiredNames seen := by
  unfold objectFields
  split
  · next none =>
      rw [List.isEmpty_iff.mp none]
      simp [Json.field?, requiredNames, propertyNames, Text.firstOccurrences]
  · dsimp only
    split
    · next none => simp [Json.field?, List.isEmpty_iff.mp none]
    · simp [Json.field?, listsName]

theorem isSome_items {seen : List (List Json)}
    : (Json.field? "items" (arrayFields describe seen)).isSome ↔ seen ≠ [] := by
  unfold arrayFields
  split <;> simp_all [Json.field?]

theorem exists_hasField_iff {name : String}
    : (∃ value ∈ values, hasField name value)
      ↔ ∃ fields ∈ objects values, (Json.field? name fields).isSome := by
  constructor
  · rintro ⟨value, member, has⟩
    cases value with
    | object fields => exact ⟨fields, mem_objects.mpr member, has⟩
    | _ => cases has
  · rintro ⟨fields, seen, has⟩
    exact ⟨.object fields, mem_objects.mp seen, has⟩

theorem exists_object_iff
    : (∃ value ∈ values, value.kind = .object) ↔ ∃ fields, fields ∈ objects values := by
  constructor
  · rintro ⟨value, member, kind⟩
    cases value <;> cases kind
    exact ⟨_, mem_objects.mpr member⟩
  · rintro ⟨fields, seen⟩
    exact ⟨.object fields, mem_objects.mp seen, rfl⟩

theorem forall_hasField_iff {name : String}
    : (∀ value ∈ values, value.kind = .object → hasField name value)
      ↔ ∀ fields ∈ objects values, (Json.field? name fields).isSome := by
  constructor
  · exact fun has fields seen => has _ (mem_objects.mp seen) rfl
  · intro has value member kind
    cases value <;> cases kind
    exact has _ (mem_objects.mpr member)

theorem exists_array_iff
    : (∃ value ∈ values, value.kind = .array) ↔ arrays values ≠ [] := by
  constructor
  · rintro ⟨value, member, kind⟩
    cases value <;> cases kind
    exact List.ne_nil_of_mem (mem_arrays.mpr member)
  · intro some
    obtain ⟨items, seen⟩ := List.exists_mem_of_ne_nil _ some
    exact ⟨.array items, mem_arrays.mp seen, rfl⟩

/-- A schema that tells of its values tells exactly what they are. -/
theorem Tells.isExact {schema : Json} (tells : Tells schema describe values)
    : IsExact schema values := by
  constructor
  case kinds =>
    intro kind
    rw [tells.type, any_listsKind_typeFields, mem_kinds]
  case properties =>
    intro name
    rw [Step.schemaIn?, tells.properties, bind_properties, exists_hasField_iff, ← mem_propertyNames]
    split <;> simp_all
  case required =>
    intro name
    rw [tells.required, any_listsName_required, mem_requiredNames, mem_propertyNames,
      exists_object_iff, forall_hasField_iff]
    refine and_congr_left fun all => ⟨?_, ?_⟩
    · rintro ⟨fields, seen, _⟩
      exact ⟨fields, seen⟩
    · rintro ⟨fields, seen⟩
      exact ⟨fields, seen, all fields seen⟩
  case items => rw [tells.items, isSome_items, exists_array_iff]

-----------------------------------------------------------------------------------------
-- All positions
-----------------------------------------------------------------------------------------

theorem flatMap_property (name : String) (values : List Json)
    : values.flatMap (Step.property name).valuesIn = propertyValues name (objects values) := by
  induction values with
  | nil => rfl
  | cons value rest ih =>
      rw [List.flatMap_cons, ih]
      cases value with
      | object fields =>
          cases found : Json.field? name fields <;>
            simp [Step.valuesIn, fieldIn?, objects, propertyValues, found]
      | _ => rfl

theorem flatMap_item (values : List Json)
    : values.flatMap Step.item.valuesIn = (arrays values).flatten := by
  induction values with
  | nil => rfl
  | cons value rest ih =>
      rw [List.flatMap_cons, ih]
      cases value <;> rfl

/-- A step leads to a schema of the values that it leads to, or else to neither. -/
theorem Tells.schemaIn? {schema : Json} (tells : Tells schema describe values) (step : Step)
    : step.schemaIn? schema = some (describe (values.flatMap step.valuesIn))
      ∨ step.schemaIn? schema = none ∧ values.flatMap step.valuesIn = [] := by
  cases step with
  | property name =>
      rw [Step.schemaIn?, tells.properties, bind_properties, flatMap_property]
      split
      · exact .inl rfl
      · next unseen =>
          refine .inr ⟨rfl, List.eq_nil_iff_forall_not_mem.mpr fun value member => unseen ?_⟩
          obtain ⟨fields, seen, found⟩ := List.mem_filterMap.mp member
          exact mem_propertyNames.mpr ⟨fields, seen, found ▸ rfl⟩
  | item =>
      rw [Step.schemaIn?, tells.items, flatMap_item, arrayFields]
      split
      · next none => exact .inr ⟨rfl, by rw [List.isEmpty_iff.mp none]; rfl⟩
      · exact .inl rfl

/-- A step leads to values with fewer levels. -/
theorem nestingOfItems_flatMap_le (fits : Json.nestingOfItems values ≤ levels) (step : Step)
    : Json.nestingOfItems (values.flatMap step.valuesIn) ≤ levels - 1 := by
  refine Json.nestingOfItems_le_iff.mpr fun inner member => ?_
  cases step with
  | property name =>
      rw [flatMap_property] at member
      exact Nat.le_sub_one_of_lt (nesting_propertyValues_lt fits member)
  | item =>
      rw [flatMap_item] at member
      exact Nat.le_sub_one_of_lt (nesting_items_lt fits member)

theorem valuesAt_nil (position : List Step) : valuesAt position [] = [] := by
  induction position with
  | nil => rfl
  | cons step rest ih => exact ih

/-- A schema that tells of its values is exact at every position, by induction on the steps to it:
each of them takes a level off the values.
-/
theorem Tells.isExactAt (position : List Step) {schema : Json}
    (tells : Tells schema (describeTo (levels - 1)) values) (fits : Json.nestingOfItems values ≤ levels)
    : IsExactAt position schema values := by
  induction position generalizing schema values levels with
  | nil => exact tells.isExact
  | cons step rest ih =>
      unfold IsExactAt
      rw [schemaAt?, valuesAt]
      rcases tells.schemaIn? step with found | ⟨found, empty⟩
      · rw [found, Option.bind_some]
        have inside := nestingOfItems_flatMap_le fits step
        have inner := tells_fieldsTo inside [] fun _ _ => rfl
        rw [List.append_nil] at inner
        exact ih inner inside
      · rw [found, empty]
        exact valuesAt_nil rest

/-- Every value of a sample conforms to the schema of items that is inferred from it, and at every
position that schema tells exactly what was seen there.
-/
theorem infer_isSound_isExact (title : String) (sample : List Json)
    : ∃ schema, fieldIn? "items" (infer title sample) = some schema
      ∧ (∀ value ∈ sample, conforms schema value)
      ∧ ∀ position, IsExactAt position schema sample := by
  rw [infer_eq]
  refine ⟨.object (fields sample ++ [("title", .string title)]), rfl,
    fun value member => conforms_of_mem title member, fun position => ?_⟩
  have tells := tells_fieldsTo (Nat.le_refl (Json.nestingOfItems sample)) [("title", .string title)]
    (by simp [Json.field?])
  exact tells.isExactAt position (Nat.le_refl _)

end RecordQuery.Schema
