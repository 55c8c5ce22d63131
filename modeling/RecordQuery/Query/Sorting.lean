import RecordQuery.Error
import RecordQuery.Order
import RecordQuery.Path.Basic
import RecordQuery.StableSort.Basic

/-! Sorting records by several keys. A later key is consulted where all earlier ones tie, and
records that tie on every key keep their order.
-/

namespace RecordQuery

/-- Which end of the order comes first. -/
inductive Direction where
  | ascending
  | descending
  deriving DecidableEq

/-- The word for a direction. -/
def Direction.name : Direction → String
  | .ascending => "asc"
  | .descending => "desc"

/-- A path to sort by, and a direction. -/
structure SortKey where
  path : PropertyPath
  direction : Direction
  deriving DecidableEq

namespace SortKey

/-- The order of two records by one key. -/
def compare (key : SortKey) (x y : Json) : Ordering :=
  let order := totalOrder (key.path.resolve x) (key.path.resolve y)
  match key.direction with
  | .ascending => order
  | .descending => order.swap

/-- The order of two records by the first key that tells them apart. -/
def compareAll : List SortKey → Json → Json → Ordering
  | [], _, _ => .eq
  | key :: rest, x, y => (key.compare x y).then (compareAll rest x y)

/-- A key as clients are told of it. -/
def echo (key : SortKey) : Json :=
  .object [(key.path.text, .string key.direction.name)]

/-- One record precedes another in the order of the keys. -/
def precedes (keys : List SortKey) (x y : Json) : Bool :=
  compareAll keys x y = .lt

/-- The records in the order of the keys, and those that tie as they stood; without keys, as they
are. There may be no result where the order is not transitive on the records.
-/
def sort (keys : List SortKey) (records : List Json) : Option (List Json) :=
  if keys.isEmpty then some records else StableSort.sort (precedes keys) records

/-- One key of a list: a path, and a direction that is ascending where none is given. -/
def parseItem (text : String) (item : List Char) : Except ParseError SortKey :=
  let key (path : List Char) (direction : Direction) : Except ParseError SortKey :=
    match PropertyPath.parse (String.ofList path) with
    | .ok path => .ok ⟨path, direction⟩
    | .error error => .error (.path error)
  match Text.words item with
  | [] => .error (.emptySortKey text)
  | [path] => key path .ascending
  | path :: direction :: rest =>
    if direction ≠ ['a', 's', 'c'] ∧ direction ≠ ['d', 'e', 's', 'c'] then
      .error (.unknownDirection (String.ofList direction) (String.ofList path))
    else
      match rest with
      | extra :: _ =>
        .error (.extraWord (String.ofList extra) (String.ofList (Text.trim item)))
      | [] => key path (if direction = ['a', 's', 'c'] then .ascending else .descending)

/-- The keys that a text lists, with commas between them; a blank text lists none. -/
def parse (text : String) : Except ParseError (List SortKey) :=
  if Text.isAllBlank text then .ok []
  else (text.toList.splitOn ',').mapM (parseItem text)

end SortKey

end RecordQuery
