import RecordQuery.Json.Basic
import RecordQuery.Text.Blank

/-! Property paths: names joined by slashes, one for each level of nesting. A name looks up a field
of an object, and a number looks up an item of an array.
-/

namespace RecordQuery

/-- The names of a path text, split at each slash. -/
def PropertyPath.split (text : String) : List String :=
  (text.toList.splitOn '/').map String.ofList

/-- A path text without white space around it that has no empty name. -/
structure PropertyPath where
  text : String
  isTrimmed : Text.trimmed text = text
  isNamed : ∀ name ∈ PropertyPath.split text, name ≠ ""
  deriving DecidableEq

/-- Why a text is no path. -/
inductive PathError where
  | empty
  | emptyName (text : String)
  deriving DecidableEq

def PathError.message : PathError → String
  | .empty => "empty property path"
  | .emptyName text => "empty segment in property path '" ++ text ++ "'"

theorem Text.trimmed_trimmed (s : String) : Text.trimmed (Text.trimmed s) = Text.trimmed s := by
  simp [Text.trimmed, Text.trim_trim]

namespace PropertyPath

/-- The path that a text spells, with white space around it left out. -/
def parse (text : String) : Except PathError PropertyPath :=
  let trimmed := Text.trimmed text
  if trimmed = "" then .error .empty
  else if h : ∀ name ∈ split trimmed, name ≠ "" then
    .ok ⟨trimmed, Text.trimmed_trimmed text, h⟩
  else .error (.emptyName trimmed)

/-- The names of a path, outermost first. -/
def names (path : PropertyPath) : List String :=
  split path.text

end PropertyPath

/-- The value under one name: a field of an object, or the item of an array at a number. -/
def Json.child? (value : Json) (name : String) : Option Json :=
  match value with
  | .object fields => field? name fields
  | .array items => (Text.unsigned64? name.toList).bind (fun place => items[place.toNat]?)
  | _ => none

/-- The value reached by following names from the outermost one. -/
def Json.follow? (value : Json) : List String → Option Json
  | [] => some value
  | name :: rest => (value.child? name).bind (follow? · rest)

/-- The value that a path leads to. -/
def PropertyPath.resolve (path : PropertyPath) (record : Json) : Option Json :=
  record.follow? path.names

/-- The value that a path text leads to, whether or not it is a well-formed path. -/
def Json.lookup? (record : Json) (text : String) : Option Json :=
  record.follow? (PropertyPath.split text)

end RecordQuery
