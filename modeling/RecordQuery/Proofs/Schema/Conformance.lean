import RecordQuery.Json.Decoding
import RecordQuery.Proofs.Schema.Shapes

/-! Which values conform to a schema, by the meaning that the fourth draft of JSON Schema gives to
the keywords of inferred schemas. Every value of a sample conforms to the schema that is inferred
from it.
-/

namespace RecordQuery.Schema

-----------------------------------------------------------------------------------------
-- Keywords
-----------------------------------------------------------------------------------------

/-- The value of `type` lists a kind, by its name or among the names of several. -/
def listsKind (kind : Json.Kind) : Json → Bool
  | .string name => name = kind.name
  | .array names => .string kind.name ∈ names
  | _ => false

/-- The value of `required` lists a name. -/
def listsName (name : String) : Json → Bool
  | .array names => .string name ∈ names
  | _ => false

/-- A value is an object and has a field. -/
def hasField (name : String) : Json → Bool
  | .object fields => (Json.field? name fields).isSome
  | _ => false

/-- An object has the fields that the value of `required` lists. -/
def hasRequired (fields : List Json.Field) : Json → Bool
  | .array names =>
    names.all (fun name => name.text?.any (fun name => (Json.field? name fields).isSome))
  | _ => false

/-- A keyword holds for a value, given what it says of the fields of an object and of an item of an
array. Keywords are about values of the kinds that they name; those that only describe a schema hold
for all values.
-/
def keywordHolds (keyword : String) (argument : Json) (fieldsConform : List Json.Field → Bool)
    (itemConforms : Json → Bool) (value : Json) : Bool :=
  match keyword, value with
  | "type", value => listsKind value.kind argument
  | "properties", .object fields => fieldsConform fields
  | "required", .object fields => hasRequired fields argument
  | "items", .array items => items.all itemConforms
  | _, _ => true

mutual
/-- A value conforms to a schema: every keyword of it holds. -/
def conforms : Json → Json → Bool
  | .object keywords, value => keywordsHold keywords value
  | _, _ => false
termination_by structural schema => schema

/-- Every keyword of a schema holds for a value. -/
def keywordsHold : List Json.Field → Json → Bool
  | [], _ => true
  | (keyword, argument) :: rest, value =>
    keywordHolds keyword argument (fun fields => fieldsConform argument fields)
      (fun item => conforms argument item) value
    && keywordsHold rest value
termination_by structural keywords => keywords

/-- The fields of an object conform to what the value of `properties` tells of them. -/
def fieldsConform : Json → List Json.Field → Bool
  | .object properties, fields => propertiesHold properties fields
  | _, _ => false
termination_by structural argument => argument

/-- The fields of an object conform to the schemas of their names, where these have one. -/
def propertiesHold : List Json.Field → List Json.Field → Bool
  | [], _ => true
  | (name, schema) :: rest, fields =>
    (Json.field? name fields).all (fun value => conforms schema value)
    && propertiesHold rest fields
termination_by structural properties => properties
end

-----------------------------------------------------------------------------------------
-- What inferred schemas tell
-----------------------------------------------------------------------------------------

variable {samples : List Json} {value : Json}

theorem keywordsHold_append (first rest : List Json.Field) (value : Json)
    : keywordsHold (first ++ rest) value
      = (keywordsHold first value && keywordsHold rest value) := by
  induction first with
  | nil => rfl
  | cons field others ih =>
      rw [List.cons_append, keywordsHold, keywordsHold, ih, Bool.and_assoc]

/-- The kind of a value is among the kinds that were seen. -/
theorem keywordsHold_typeFields (member : value ∈ samples)
    : keywordsHold (typeFields samples) value = true := by
  have seen : value.kind ∈ kinds samples := mem_kinds.mpr ⟨value, member, rfl⟩
  unfold typeFields
  split
  · rfl
  · next kind only =>
      rw [only] at seen
      obtain rfl := List.mem_singleton.mp seen
      simp [keywordsHold, keywordHolds, listsKind]
  · have listed : Json.string value.kind.name
        ∈ (kinds samples).map (fun kind => .string kind.name) := List.mem_map_of_mem seen
    simp [keywordsHold, keywordHolds, listsKind, listed]

/-- The fields of an object conform where each conforms to the schema of its name. -/
theorem propertiesHold_map {describe : String → Json} {fields : List Json.Field}
    (names : List String)
    (holds : ∀ name value, Json.field? name fields = some value
      → conforms (describe name) value = true)
    : propertiesHold (names.map (fun name => (name, describe name))) fields = true := by
  induction names with
  | nil => rfl
  | cons name rest ih =>
      have first : (Json.field? name fields).all (fun value => conforms (describe name) value) :=
        (Option.all_eq_true _ _).mpr (holds name)
      rw [List.map_cons, propertiesHold, first, ih]
      rfl

variable {describe : List Json → Json}

/-- The fields of an object conform to what is told of the values that were seen in their places, and
an object has the fields that all have.
-/
theorem keywordsHold_objectFields
    (holds : ∀ inner, ∀ value ∈ inner, conforms (describe inner) value = true)
    (member : value ∈ samples)
    : keywordsHold (objectFields describe (objects samples)) value = true := by
  cases value with
  | object fields =>
      have seen : fields ∈ objects samples := mem_objects.mpr member
      have properties : propertiesHold ((propertyNames (objects samples)).map (fun name =>
          (name, describe (propertyValues name (objects samples))))) fields = true :=
        propertiesHold_map _ fun name value found =>
          holds _ value (List.mem_filterMap.mpr ⟨fields, seen, found⟩)
      have required : hasRequired fields
          (.array ((requiredNames (objects samples)).map Json.string)) = true := by
        simp only [hasRequired, List.all_map, List.all_eq_true]
        intro name listed
        exact (mem_requiredNames.mp listed).2 fields seen
      unfold objectFields
      split
      · rfl
      · dsimp only
        split
        · simp [keywordsHold, keywordHolds, fieldsConform, properties]
        · simp [keywordsHold, keywordHolds, fieldsConform, properties, required]
  | _ =>
      unfold objectFields
      split
      · rfl
      · dsimp only
        split <;> simp [keywordsHold, keywordHolds]

/-- The items of an array conform to what is told of the items that were seen. -/
theorem keywordsHold_arrayFields
    (holds : ∀ inner, ∀ value ∈ inner, conforms (describe inner) value = true)
    (member : value ∈ samples)
    : keywordsHold (arrayFields describe (arrays samples)) value = true := by
  unfold arrayFields
  split
  · rfl
  cases value with
  | array items =>
      have items : items.all (conforms (describe (arrays samples).flatten)) = true := by
        refine List.all_eq_true.mpr fun item inside => holds _ item ?_
        exact List.mem_flatten.mpr ⟨items, mem_arrays.mpr member, inside⟩
      simp [keywordsHold, keywordHolds, items]
  | _ => simp [keywordsHold, keywordHolds]

/-- Every value conforms to what is told of the values that it is one of, by induction on the levels
that are told of.
-/
theorem keywordsHold_fieldsTo (levels : Nat) (member : value ∈ samples)
    : keywordsHold (fieldsTo levels samples) value = true := by
  induction levels generalizing samples value with
  | zero => exact keywordsHold_typeFields member
  | succ levels ih =>
      have holds (inner : List Json) (value : Json) (member : value ∈ inner)
          : conforms (.object (fieldsTo levels inner)) value = true := by
        rw [conforms]
        exact ih member
      rw [fieldsTo, keywordsHold_append, keywordsHold_append, keywordsHold_typeFields member,
        keywordsHold_objectFields holds member, keywordsHold_arrayFields holds member]
      rfl

/-- Every value of a sample conforms to the schema of its values, with whatever title. -/
theorem conforms_of_mem (title : String) (member : value ∈ samples)
    : conforms (.object (fields samples ++ [("title", .string title)])) value = true := by
  rw [conforms, keywordsHold_append, fields, keywordsHold_fieldsTo _ member]
  rfl

/-- A sample conforms, as an array, to the schema that is inferred from it. -/
theorem conforms_infer (title : String) (sample : List Json)
    : conforms (infer title sample) (.array sample) = true := by
  have items (value : Json) (member : value ∈ sample)
      : keywordsHold (fields sample ++ [("title", .string title)]) value = true := by
    simpa only [conforms] using conforms_of_mem title member
  simpa [infer_eq, conforms, keywordsHold, keywordHolds, listsKind, Json.kind, Json.Kind.name]
    using items

/-- A record without a property that all records of a sample have does not conform. -/
example : conforms (infer "data" [.object [("id", .null)], .object [("id", .bool true)]])
    (.array [.object []]) = false := by
  decide

end RecordQuery.Schema
