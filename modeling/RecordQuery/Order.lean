import RecordQuery.Json.Basic
import RecordQuery.Text.Utf16

/-! How values of records are compared. Equality is strict: values of different kinds are never
equal, and numbers are equal by value. Values of one scalar kind are ordered. For sorting the order
is made total: an absent value comes first, then the kinds in turn.
-/

namespace RecordQuery

mutual
/-- Equality of two values: numbers by value, objects whatever the order of their fields. -/
def Json.sameValue (x y : Json) : Bool :=
  match x, y with
  | .null, .null => true
  | .bool a, .bool b => a == b
  | .number a, .number b => a.compare b == .eq
  | .string a, .string b => a == b
  | .array a, .array b => sameItems a b
  | .object a, .object b => a.length == b.length && sameFields a b
  | _, _ => false
termination_by structural x

/-- Equality of two lists of values, item by item. -/
def Json.sameItems (xs ys : List Json) : Bool :=
  match xs, ys with
  | [], [] => true
  | x :: xs, y :: ys => x.sameValue y && sameItems xs ys
  | _, _ => false
termination_by structural xs

/-- Whether each field of one object has an equal field in the other. -/
def Json.sameFields (xs ys : List Json.Field) : Bool :=
  match xs with
  | [] => true
  | (name, x) :: xs =>
    (match field? name ys with
      | some y => x.sameValue y
      | none => false) && sameFields xs ys
termination_by structural xs
end

/-- Equality of two values that may be absent. -/
def strictEq : Option Json → Option Json → Bool
  | none, none => true
  | some x, some y => x.sameValue y
  | _, _ => false

/-- The order of two scalars of one kind; there is none between other values. -/
def partialOrder : Option Json → Option Json → Option Ordering
  | some (.number a), some (.number b) => some (a.compare b)
  | some (.string a), some (.string b) => some (Text.compareUnits a b)
  | some (.bool a), some (.bool b) => some (compare a b)
  | some .null, some .null => some .eq
  | _, _ => none

/-- The place of a kind in the sort order. -/
def Json.Kind.rank : Json.Kind → Nat
  | .null => 1
  | .boolean => 2
  | .number => 3
  | .string => 4
  | .array => 5
  | .object => 6

/-- The place of a value in the sort order by its kind; an absent value comes first. -/
def rank : Option Json → Nat
  | none => 0
  | some value => value.kind.rank

/-- The order for sorting. Arrays tie with each other, and so do objects. -/
def totalOrder (x y : Option Json) : Ordering :=
  (compare (rank x) (rank y)).then ((partialOrder x y).getD .eq)

end RecordQuery
