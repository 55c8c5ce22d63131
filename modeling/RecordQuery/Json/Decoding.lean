import RecordQuery.Json.Basic

/-! Records as JSON values. A record is an object with its fields by name, or an array of its fields
in order. Fields that are not known are passed over.
-/

namespace RecordQuery.Json

/-- What differs between the formats of records: whether an array may have more items than a record
has fields, and what may stand beside the name of an alternative that holds nothing.
-/
structure Conventions where
  allowsSurplus : Bool
  isNothing : Json → Bool

/-- The conventions of records in JSON text: null stands for nothing. -/
def Conventions.json : Conventions :=
  ⟨false, (· = .null)⟩

/-- The conventions of records in configuration text: an empty table or array stands for nothing. -/
def Conventions.settings : Conventions :=
  ⟨true, fun value => value = .object [] || value = .array []⟩

/-- The values of the named fields of a record, none for those that are left out. -/
def record? (conventions : Conventions) (names : List String) : Json → Option (List (Option Json))
  | .object fields => some (names.map (field? · fields))
  | .array items =>
    if names.length < items.length && !conventions.allowsSurplus then none
    else some (names.zipIdx.map (fun (_, place) => items[place]?))
  | _ => none

/-- The string that a value is. -/
def text? : Json → Option String
  | .string s => some s
  | _ => none

/-- The 64-bit word that a value is. -/
def count? : Json → Option UInt64
  | .number (.int n _) => if 0 ≤ n then some (UInt64.ofNat n.toNat) else none
  | _ => none

/-- The value of a field that has one where it is left out. -/
def orDefault (default : α) (read : Json → Option α) : Option Json → Option α
  | none => some default
  | some value => read value

/-- The value of a field that may be left out or null. -/
def optional? (read : Json → Option α) : Option Json → Option (Option α)
  | none | some .null => some none
  | some value => (read value).map some

/-- The alternative that a value names: by a string, or by an object with that one field, which
holds nothing.
-/
def alternative? (conventions : Conventions) (ofName? : String → Option α) : Json → Option α
  | .string name => ofName? name
  | .object [(name, value)] => if conventions.isNothing value then ofName? name else none
  | _ => none

end RecordQuery.Json
