import RecordQuery.StableSort.Runs

/-! Stable sorting by an order that is asked item by item. Short lists are sorted by insertion and
longer ones by runs, which are split at pivots. Sorting an order that contradicts itself may come to
no result; where the order is one there is always a result, and it is the stable one.
-/

namespace RecordQuery.StableSort

variable {α : Type} (precedes : α → α → Bool)

/-! ### Pivots -/

/-- The place of the median of three items. -/
def medianOfThree (item : Nat → α) (a b c : Nat) : Nat :=
  let first := precedes (item a) (item b)
  if first = precedes (item a) (item c) then
    if precedes (item b) (item c) = first then b else c
  else a

/-- The place of a median of three stretches of `length` items, which start at `a`, `b` and `c`:
from eight items on each is stood for by such a median of its own.
-/
def medianOfStretches (item : Nat → α) (length a b c : Nat) : Nat :=
  if 8 ≤ length then
    let part := length / 8
    let median (start : Nat) :=
      medianOfStretches item part start (start + part * 4) (start + part * 7)
    medianOfThree precedes item (median a) (median b) (median c)
  else medianOfThree precedes item a b c
termination_by length

/-- The item at which a list is split, if it has any. -/
def pivot? : List α → Option α
  | [] => none
  | first :: rest =>
    let item (place : Nat) := (first :: rest).getD place first
    let part := (rest.length + 1) / 8
    some (item (medianOfStretches precedes item part 0 (part * 4) (part * 7)))

/-! ### Splitting -/

/-- Sort a list by splitting it at a pivot, at most `limit` times on the way to a block. The items
are known not to precede `floor`, so that a pivot which it does not precede is among the first of
them: then, and where nothing precedes the pivot, all that ties with it is split off.
-/
def splitSort (whenStuck : List α → Option (List α)) : Nat → Option α → List α → Option (List α)
  | 0, _, items => if items.length ≤ maxBlock then sortBlock precedes items else whenStuck items
  | limit + 1, floor, items =>
    if items.length ≤ maxBlock then sortBlock precedes items
    else do
      let pivot ← pivot? precedes items
      let below := items.filter (precedes · pivot)
      if floor.any (fun floor => !precedes floor pivot) || below.isEmpty then
        let above ← splitSort whenStuck limit none (items.filter (precedes pivot))
        return items.filter (!precedes pivot ·) ++ above
      else
        let above ← splitSort whenStuck limit (some pivot) (items.filter (!precedes · pivot))
        let below ← splitSort whenStuck limit floor below
        return below ++ above

/-- The items for which there is room besides the list: all of a list that takes eight million
octets at most, at 72 octets an item, and half of a longer one.
-/
def room (length : Nat) : Nat :=
  max (max (length - length / 2) (min length (8000000 / 72))) 48

/-- Sorting by runs that are sorted at once. -/
def sortEagerly (room : Nat) (items : List α) : Option (List α) :=
  sortByRuns precedes .eager (sortBlock precedes) room items

/-- Sorting a run by splitting it. -/
def sortBySplitting (room : Nat) (items : List α) : Option (List α) :=
  splitSort precedes (sortEagerly precedes room) (2 * (max items.length 1).log2) none items

/-- The longest list that is sorted by insertion. -/
def maxInsertion : Nat := 20

/-- The items in order, those that tie as they stood. -/
def sort (items : List α) : Option (List α) :=
  if items.length ≤ maxInsertion then some (insertionSort precedes items)
  else
    let room := room items.length
    if items.length ≤ 2 * maxBlock then sortEagerly precedes room items
    else sortByRuns precedes .lazy (sortBySplitting precedes room) room items

end RecordQuery.StableSort
