import RecordQuery.Number.Basic

/-! JSON values. An object keeps its fields in the order in which they were put in, and a field is
put in once: putting it in again changes its value and not its place.
-/

namespace RecordQuery

/-- A JSON value. -/
inductive Json where
  | null
  | bool (value : Bool)
  | number (value : Number)
  | string (value : String)
  | array (items : List Json)
  | object (fields : List (String × Json))
  deriving Inhabited

namespace Json

mutual
/-- Equality of values, field order included. -/
def decideEq (x y : Json) : Decidable (x = y) :=
  match x, y with
  | .null, .null => isTrue rfl
  | .bool a, .bool b => decidable_of_iff (a = b) (by simp)
  | .number a, .number b => decidable_of_iff (a = b) (by simp)
  | .string a, .string b => decidable_of_iff (a = b) (by simp)
  | .array a, .array b =>
    match decideEqItems a b with
    | isTrue h => isTrue (by rw [h])
    | isFalse h => isFalse (by simpa using h)
  | .object a, .object b =>
    match decideEqFields a b with
    | isTrue h => isTrue (by rw [h])
    | isFalse h => isFalse (by simpa using h)
  | .null, .bool _ | .null, .number _ | .null, .string _ | .null, .array _ | .null, .object _
  | .bool _, .null | .bool _, .number _ | .bool _, .string _ | .bool _, .array _
  | .bool _, .object _ | .number _, .null | .number _, .bool _ | .number _, .string _
  | .number _, .array _ | .number _, .object _ | .string _, .null | .string _, .bool _
  | .string _, .number _ | .string _, .array _ | .string _, .object _ | .array _, .null
  | .array _, .bool _ | .array _, .number _ | .array _, .string _ | .array _, .object _
  | .object _, .null | .object _, .bool _ | .object _, .number _ | .object _, .string _
  | .object _, .array _ => isFalse (by simp)
termination_by structural x

/-- Equality of lists of values. -/
def decideEqItems (xs ys : List Json) : Decidable (xs = ys) :=
  match xs, ys with
  | [], [] => isTrue rfl
  | x :: xs, y :: ys =>
    match decideEq x y, decideEqItems xs ys with
    | isTrue h, isTrue hs => isTrue (by rw [h, hs])
    | isFalse h, _ => isFalse (by simp [h])
    | _, isFalse hs => isFalse (by simp [hs])
  | [], _ :: _ | _ :: _, [] => isFalse (by simp)
termination_by structural xs

/-- Equality of lists of fields. -/
def decideEqFields (xs ys : List (String × Json)) : Decidable (xs = ys) :=
  match xs, ys with
  | [], [] => isTrue rfl
  | (k, x) :: xs, (l, y) :: ys =>
    match decEq k l, decideEq x y, decideEqFields xs ys with
    | isTrue hk, isTrue h, isTrue hs => isTrue (by rw [hk, h, hs])
    | isFalse hk, _, _ => isFalse (by simp [hk])
    | _, isFalse h, _ => isFalse (by simp [h])
    | _, _, isFalse hs => isFalse (by simp [hs])
  | [], _ :: _ | _ :: _, [] => isFalse (by simp)
termination_by structural xs
end

instance : DecidableEq Json := decideEq

/-- The kinds of JSON values. -/
inductive Kind where
  | null
  | boolean
  | number
  | string
  | array
  | object
  deriving DecidableEq

/-- The name of a kind. -/
def Kind.name : Kind → String
  | .null => "null"
  | .boolean => "boolean"
  | .number => "number"
  | .string => "string"
  | .array => "array"
  | .object => "object"

/-- The name of a kind with its article. -/
def Kind.phrase : Kind → String
  | .null => "null"
  | .boolean => "a boolean"
  | .number => "a number"
  | .string => "a string"
  | .array => "an array"
  | .object => "an object"

/-- The kind of a value. -/
def kind : Json → Kind
  | .null => .null
  | .bool _ => .boolean
  | .number _ => .number
  | .string _ => .string
  | .array _ => .array
  | .object _ => .object

/-- A field of an object: its name and its value. -/
abbrev Field := String × Json

/-- The value of a field, if the object has it. -/
def field? (name : String) : List Field → Option Json
  | [] => none
  | (key, value) :: rest => if key = name then some value else field? name rest

/-- Put a field in: a new one goes to the end, one that is there keeps its place. -/
def setField (name : String) (value : Json) : List Field → List Field
  | [] => [(name, value)]
  | (key, old) :: rest =>
    if key = name then (key, value) :: rest else (key, old) :: setField name value rest

/-- The fields without the one called `name`: the last field takes its place. -/
def removeField (name : String) (fields : List Field) : List Field :=
  match fields.findIdx? (fun field => field.1 = name), fields.getLast? with
  | some place, some last => (fields.set place last).dropLast
  | _, _ => fields

/-- The fields of a row of entries, later entries of a name replacing earlier ones in place. -/
def fieldsOf (entries : List Field) : List Field :=
  entries.foldl (fun fields entry => setField entry.1 entry.2 fields) []

mutual
/-- No object anywhere inside a value has two fields of one name. -/
def HasDistinctKeys : Json → Prop
  | .array items => ItemsHaveDistinctKeys items
  | .object fields => (fields.map Prod.fst).Nodup ∧ FieldsHaveDistinctKeys fields
  | _ => True

/-- `HasDistinctKeys` of every item. -/
def ItemsHaveDistinctKeys : List Json → Prop
  | [] => True
  | item :: rest => item.HasDistinctKeys ∧ ItemsHaveDistinctKeys rest

/-- `HasDistinctKeys` of the value of every field. -/
def FieldsHaveDistinctKeys : List Field → Prop
  | [] => True
  | (_, value) :: rest => value.HasDistinctKeys ∧ FieldsHaveDistinctKeys rest
end

end Json

end RecordQuery
