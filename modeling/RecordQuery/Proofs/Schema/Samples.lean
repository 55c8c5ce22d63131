import RecordQuery.Proofs.Json.Fields
import RecordQuery.Proofs.Json.Nesting
import RecordQuery.Query.Selection
import RecordQuery.Schema

/-! What a schema tells of the values of a sample, position by position: their kinds, the objects
among them with the values of each property, and the items of the arrays among them.
-/

namespace RecordQuery.Schema

/-- The kinds of some values, first seen first. -/
def kinds (samples : List Json) : List Json.Kind :=
  Text.firstOccurrences (samples.map Json.kind)

/-- The objects among some values. -/
def objects (samples : List Json) : List (List Json.Field) :=
  samples.filterMap (fun
    | .object fields => some fields
    | _ => none)

/-- The arrays among some values. -/
def arrays (samples : List Json) : List (List Json) :=
  samples.filterMap (fun
    | .array items => some items
    | _ => none)

/-- The property names of some objects, first seen first. -/
def propertyNames (objects : List (List Json.Field)) : List String :=
  Text.firstOccurrences (objects.flatMap (fun fields => fields.map Prod.fst))

/-- The values of a property in the objects that have it. -/
def propertyValues (name : String) (objects : List (List Json.Field)) : List Json :=
  objects.filterMap (Json.field? name)

/-- The properties that every object has. -/
def requiredNames (objects : List (List Json.Field)) : List String :=
  (propertyNames objects).filter
    (fun name => (propertyValues name objects).length = objects.length)

/-- What a schema tells of the kinds of values. -/
def typeFields (samples : List Json) : List Json.Field :=
  match kinds samples with
  | [] => []
  | [kind] => [("type", .string kind.name)]
  | several => [("type", .array (several.map (fun kind => .string kind.name)))]

/-- What a schema tells of the properties of objects. -/
def objectFields (describe : List Json → Json) (objects : List (List Json.Field))
    : List Json.Field :=
  if objects.isEmpty then []
  else
    let properties := (propertyNames objects).map
      (fun name => (name, describe (propertyValues name objects)))
    let required := requiredNames objects
    ("properties", .object properties)
      :: if required.isEmpty then [] else [("required", .array (required.map Json.string))]

/-- What a schema tells of the items of arrays. -/
def arrayFields (describe : List Json → Json) (arrays : List (List Json)) : List Json.Field :=
  if arrays.isEmpty then [] else [("items", describe arrays.flatten)]

/-- The fields of the schema of some values with at most some levels of nesting. -/
def fieldsTo : Nat → List Json → List Json.Field
  | 0, samples => typeFields samples
  | levels + 1, samples =>
    let describe (inner : List Json) : Json := .object (fieldsTo levels inner)
    typeFields samples ++ objectFields describe (objects samples)
      ++ arrayFields describe (arrays samples)

/-- The fields of the schema of some values. -/
def fields (samples : List Json) : List Json.Field :=
  fieldsTo (Json.nestingOfItems samples) samples

variable {samples : List Json} {levels : Nat}

-----------------------------------------------------------------------------------------
-- Parts of a sample
-----------------------------------------------------------------------------------------

theorem mem_kinds {kind : Json.Kind}
    : kind ∈ kinds samples ↔ ∃ value ∈ samples, value.kind = kind := by
  rw [kinds, Text.mem_firstOccurrences, List.mem_map]

theorem mem_objects {fields : List Json.Field}
    : fields ∈ objects samples ↔ .object fields ∈ samples := by
  rw [objects, List.mem_filterMap]
  constructor
  · rintro ⟨value, member, found⟩
    cases value <;> cases found
    exact member
  · exact fun member => ⟨.object fields, member, rfl⟩

theorem mem_arrays {items : List Json} : items ∈ arrays samples ↔ .array items ∈ samples := by
  rw [arrays, List.mem_filterMap]
  constructor
  · rintro ⟨value, member, found⟩
    cases value <;> cases found
    exact member
  · exact fun member => ⟨.array items, member, rfl⟩

/-- A property is required where all objects have it, and there is one. -/
theorem mem_requiredNames {name : String} {objects : List (List Json.Field)}
    : name ∈ requiredNames objects
      ↔ name ∈ propertyNames objects
        ∧ ∀ fields ∈ objects, (Json.field? name fields).isSome := by
  rw [requiredNames, List.mem_filter, decide_eq_true_iff, propertyValues,
    List.filterMap_length_eq_length]

-----------------------------------------------------------------------------------------
-- Keywords
-----------------------------------------------------------------------------------------

variable {describe : List Json → Json} {keyword : String}

theorem field?_typeFields (other : keyword ≠ "type")
    : Json.field? keyword (typeFields samples) = none := by
  unfold typeFields
  split <;> simp [Json.field?, Ne.symm other]

theorem field?_objectFields (other : keyword ≠ "properties") (another : keyword ≠ "required")
    (seen : List (List Json.Field))
    : Json.field? keyword (objectFields describe seen) = none := by
  unfold objectFields
  split
  · rfl
  · dsimp only
    split <;> simp [Json.field?, Ne.symm other, Ne.symm another]

theorem field?_arrayFields (other : keyword ≠ "items") (seen : List (List Json))
    : Json.field? keyword (arrayFields describe seen) = none := by
  unfold arrayFields
  split <;> simp [Json.field?, Ne.symm other]

-----------------------------------------------------------------------------------------
-- Levels of nesting
-----------------------------------------------------------------------------------------

/-- The values of a property have a level less than the values that have it. -/
theorem nesting_propertyValues_lt (fits : Json.nestingOfItems samples ≤ levels) {name : String}
    {value : Json} (member : value ∈ propertyValues name (objects samples))
    : value.nesting < levels := by
  obtain ⟨fields, seen, found⟩ := List.mem_filterMap.mp member
  exact Nat.lt_of_lt_of_le (Json.nesting_lt_of_field? found)
    (Json.nestingOfItems_le_iff.mp fits _ (mem_objects.mp seen))

/-- So have the items of arrays. -/
theorem nesting_items_lt (fits : Json.nestingOfItems samples ≤ levels) {value : Json}
    (member : value ∈ (arrays samples).flatten)
    : value.nesting < levels := by
  obtain ⟨items, seen, inside⟩ := List.mem_flatten.mp member
  exact Nat.lt_of_lt_of_le (Json.nesting_lt_of_mem inside)
    (Json.nestingOfItems_le_iff.mp fits _ (mem_arrays.mp seen))

/-- What is told of some values with at most some levels of nesting. -/
def describeTo (levels : Nat) (values : List Json) : Json :=
  .object (fieldsTo levels values)

/-- The schema of some values has a title only where it is given one. -/
theorem field?_title_fieldsTo (levels : Nat) (samples : List Json)
    : Json.field? "title" (fieldsTo levels samples) = none := by
  cases levels with
  | zero => exact field?_typeFields (by decide)
  | succ levels =>
      rw [fieldsTo, Json.field?_append, Json.field?_append, field?_typeFields (by decide),
        field?_objectFields (by decide) (by decide), field?_arrayFields (by decide)]
      rfl

/-- With levels enough, a schema tells of kinds, of objects and of arrays. -/
theorem fieldsTo_eq (fits : Json.nestingOfItems samples ≤ levels)
    : fieldsTo levels samples
      = typeFields samples ++ objectFields (describeTo (levels - 1)) (objects samples)
        ++ arrayFields (describeTo (levels - 1)) (arrays samples) := by
  cases levels with
  | succ levels => rfl
  | zero =>
      have flat := Json.nestingOfItems_le_iff.mp fits
      have noObjects : objects samples = [] := by
        refine List.eq_nil_iff_forall_not_mem.mpr fun fields member => ?_
        have level := flat _ (mem_objects.mp member)
        rw [Json.nesting] at level
        omega
      have noArrays : arrays samples = [] := by
        refine List.eq_nil_iff_forall_not_mem.mpr fun items member => ?_
        have level := flat _ (mem_arrays.mp member)
        rw [Json.nesting] at level
        omega
      simp [noObjects, noArrays, fieldsTo, objectFields, arrayFields]

end RecordQuery.Schema
