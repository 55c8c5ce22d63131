import RecordQuery.Path.Basic

/-! Projection: the part of a record that a list of paths leads to, nested as in the record. -/

namespace RecordQuery

/-- Put a value in under a row of names, making the objects on the way. Where a whole value stands
on the way already, it holds what the longer path leads to, and is kept.
-/
def Json.place (value : Json) : List String → List Json.Field → List Json.Field
  | [], fields => fields
  | [name], fields => setField name value fields
  | name :: rest, fields =>
    match field? name fields with
    | none => setField name (.object (place value rest [])) fields
    | some (.object inner) => setField name (.object (place value rest inner)) fields
    | some _ => fields

/-- The fields of a projection after one more path. -/
def Json.pickPath (record : Json) (fields : List Json.Field) (path : PropertyPath)
    : List Json.Field :=
  match path.resolve record with
  | some value => value.place path.names fields
  | none => fields

/-- The object that holds what the paths lead to in a record, and nothing else. -/
def Json.pick (record : Json) (paths : List PropertyPath) : Json :=
  .object (paths.foldl record.pickPath [])

end RecordQuery
