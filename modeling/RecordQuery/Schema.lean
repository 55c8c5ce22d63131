import RecordQuery.Json.Basic

/-! Schemas inferred from samples, in the fourth draft of JSON Schema. The values that are seen at a
position, reached by property names and array items, are put together in a shape: the kinds of
values, the properties of objects with the number of objects that had them, and the items of arrays.
The schema of a position tells what its shape has.
-/

namespace RecordQuery.Schema

/-- The dialect of the schemas. -/
def dialect : String := "http://json-schema.org/draft-04/schema#"

/-- What was seen at a position: kinds and properties, first seen first, each property with how many
objects had it, how many objects there were, and the items of arrays, if there were any.
-/
structure Shape where
  kinds : List Json.Kind
  properties : List (String × Nat × Shape)
  objects : Nat
  items : Option Shape

namespace Shape

/-- A property, how many objects had it, and the shape of its values. -/
abbrev Property := String × Nat × Shape

/-- The shape of a position where nothing was seen. -/
def empty : Shape := ⟨[], [], 0, none⟩

/-- A shape after a value of a kind was seen. -/
def withKind (shape : Shape) (kind : Json.Kind) : Shape :=
  if kind ∈ shape.kinds then shape else { shape with kinds := shape.kinds ++ [kind] }

/-- Properties after one more object had one of them, whose value is then observed. -/
def countProperty (name : String) (observe : Shape → Shape) : List Property → List Property
  | [] => [(name, 1, observe empty)]
  | (other, seen, shape) :: rest =>
    if other = name then (other, seen + 1, observe shape) :: rest
    else (other, seen, shape) :: countProperty name observe rest

mutual
/-- A shape after a value was seen. -/
def observe : Json → Shape → Shape
  | .object fields, shape =>
    let shape := shape.withKind .object
    { shape with
      objects := shape.objects + 1
      properties := observeFields [] fields shape.properties }
  | .array items, shape =>
    let shape := shape.withKind .array
    { shape with items := some (observeAll items (shape.items.getD empty)) }
  | value, shape => shape.withKind value.kind
termination_by structural value => value

/-- A shape after some values were seen, one after the other. -/
def observeAll : List Json → Shape → Shape
  | [], shape => shape
  | value :: rest, shape => observeAll rest (observe value shape)
termination_by structural values => values

/-- Properties after the fields of an object were seen. A field behind another one of its name is
none that the object has.
-/
def observeFields (before : List String) : List Json.Field → List Property → List Property
  | [], properties => properties
  | (name, value) :: rest, properties =>
    if name ∈ before then observeFields before rest properties
    else observeFields (name :: before) rest (countProperty name (observe value) properties)
termination_by structural fields => fields
end

/-- What a schema tells of the kinds of values. -/
def kindFields : List Json.Kind → List Json.Field
  | [] => []
  | [kind] => [("type", .string kind.name)]
  | several => [("type", .array (several.map (fun kind => .string kind.name)))]

/-- The properties that every object had. -/
def requiredNames (objects : Nat) (properties : List Property) : List String :=
  (properties.filter (fun (_, seen, _) => seen = objects)).map Prod.fst

/-- What a schema tells of the properties that every object had, if there are any. -/
def requiredFields (names : List String) : List Json.Field :=
  if names.isEmpty then [] else [("required", .array (names.map Json.string))]

mutual
/-- The schema of the values that a shape was seen of. -/
def toSchema : Shape → Json
  | ⟨kinds, properties, objects, items⟩ =>
    .object (kindFields kinds
      ++ (if objects = 0 then []
        else
          ("properties", .object (propertySchemas properties))
            :: requiredFields (requiredNames objects properties))
      ++ itemFields items)
termination_by structural shape => shape

/-- The schemas of properties under their names. -/
def propertySchemas : List Property → List Json.Field
  | [] => []
  | (name, _, shape) :: rest => (name, shape.toSchema) :: propertySchemas rest
termination_by structural properties => properties

/-- What a schema tells of the items of arrays. -/
def itemFields : Option Shape → List Json.Field
  | none => []
  | some items => [("items", items.toSchema)]
termination_by structural items => items
end

end Shape

/-- A schema with a title. -/
def titled (title : String) : Json → Json
  | .object fields => .object (Json.setField "title" (.string title) fields)
  | schema => schema

/-- The schema of an array of records, with a title. -/
def infer (title : String) (sample : List Json) : Json :=
  .object
    [
      ("$schema", .string dialect), ("title", .string (title ++ " Set")), ("type", .string "array"),
      ("items", titled title (Shape.observeAll sample .empty).toSchema)
    ]

end RecordQuery.Schema
