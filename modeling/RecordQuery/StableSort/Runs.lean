import RecordQuery.Number.TwoPow
import RecordQuery.StableSort.Block

/-! Sorting long lists. A list is cut into runs: stretches that stand in order already, and others of
a fixed length. Neighbouring runs are merged in the order of a balanced tree. Runs that are to be
sorted are left as they are until they meet a sorted one, and are then sorted by splitting them at a
pivot; where that makes no headway, and in lists that are not much longer than a block, every run is
sorted as a block at once.
-/

namespace RecordQuery.StableSort

variable {α : Type} (precedes : α → α → Bool)

/-! ### Runs -/

/-- A stretch of a list, which may be sorted already. -/
structure Run (α : Type) where
  items : List α
  isSorted : Bool

/-- How many items at the front of a list stand each to the one before it as `follows` says. -/
def frontLength (follows : α → α → Bool) : List α → Nat
  | last :: next :: rest =>
    if follows last next then frontLength follows (next :: rest) + 1 else 1
  | [_] => 1
  | [] => 0

/-- The second item of a list precedes the first one. -/
def isFalling : List α → Bool
  | first :: second :: _ => precedes second first
  | _ => false

/-- The items at the front of a list that stand in order, or else strictly against it, in order. -/
def existingRun (items : List α) : List α :=
  if isFalling precedes items then
    (items.take (frontLength (fun last next => precedes next last) items)).reverse
  else items.take (frontLength (fun last next => !precedes next last) items)

/-- A number close to the square root: one step from the power of two next to it. -/
def approximateRoot (n : Nat) : Nat :=
  let shift := (1 + n.log2) / 2
  (twoPow shift + n / twoPow shift) / 2

/-- The fewest items for which a run that exists is taken. -/
def minRun (length : Nat) : Nat :=
  if length ≤ 64 * 64 then min (length - length / 2) 64 else approximateRoot length

/-- How runs are made. -/
inductive Mode where
  /-- Each is sorted as a block. -/
  | eager
  /-- Each is left as it is. -/
  | lazy
  deriving DecidableEq

/-- The next run at the front of a list. -/
def nextRun (mode : Mode) (shortest : Nat) (items : List α) : Option (Run α) :=
  let existing := existingRun precedes items
  if shortest ≤ existing.length then some ⟨existing, true⟩
  else
    match mode with
    | .eager => (sortBlock precedes (items.take maxBlock)).map (⟨·, true⟩)
    | .lazy => some ⟨items.take shortest, false⟩

/-- Merge two sorted lists from the front until one of them is used up. -/
def mergeFront (left right : List α) : List α :=
  let taken := takeFront precedes (left.length + right.length) left right
  taken.items ++ left.drop taken.fromLeft ++ right.drop taken.fromRight

/-- Merge two sorted lists: from the front if the left one is not the longer one, else from the back.
-/
def merge (left right : List α) : List α :=
  if left.length ≤ right.length then mergeFront precedes left right
  else (mergeFront (fun x y => precedes y x) right.reverse left.reverse).reverse

/-- The items of a run in order; `sortRun` sorts those that are not. -/
def Run.sorted? (sortRun : List α → Option (List α)) (run : Run α) : Option (List α) :=
  if run.isSorted then some run.items else sortRun run.items

/-- Two neighbouring runs as one. Runs that are both unsorted stay so, if there is room for sorting
them later.
-/
def Run.join (sortRun : List α → Option (List α)) (room : Nat) (left right : Run α)
    : Option (Run α) :=
  if left.isSorted ∨ right.isSorted ∨ room < left.items.length + right.items.length then do
    return ⟨merge precedes (← left.sorted? sortRun) (← right.sorted? sortRun), true⟩
  else some ⟨left.items ++ right.items, false⟩

/-! ### The tree of merges -/

/-- How deep in a balanced tree over `length` items the node between two neighbouring runs is: the
runs are from `left` to `middle` and from there to `right`.
-/
def mergeDepth (length left middle right : Nat) : Nat :=
  let scale := (twoPow 62 + length - 1) / length
  let difference := (scale * (left + middle)) ^^^ (scale * (middle + right))
  if difference = 0 then 64 else 63 - difference.log2

/-- Join a run with those before it, the last one first, whose nodes are at least as deep as the one
behind it.
-/
def joinBefore (join : Run α → Run α → Option (Run α)) (depth : Nat)
    : List (Run α × Nat) → Run α → Option (List (Run α × Nat) × Run α)
  | (before, itsDepth) :: others, last =>
    if depth ≤ itsDepth then do
      joinBefore join depth others (← join before last)
    else some ((before, itsDepth) :: others, last)
  | [], last => some ([], last)

/-- What runs are made and joined with. -/
structure Plan (α : Type) where
  next : List α → Option (Run α)
  join : Run α → Run α → Option (Run α)
  depth : Nat → Nat → Nat → Nat

/-- Join all runs of a list: those before the last one with their depths, the last one, how many
items stand before its end, and the items that follow.
-/
def Plan.joinAll (plan : Plan α) (before : List (Run α × Nat)) (last : Run α) (done : Nat)
    : List α → Option (Run α)
  | [] => do
    let (_, whole) ← joinBefore plan.join 0 before last
    return whole
  | item :: rest => do
    let next ← plan.next (item :: rest)
    let depth := plan.depth (done - last.items.length) done (done + next.items.length)
    let (others, joined) ← joinBefore plan.join depth before last
    plan.joinAll ((joined, depth) :: others) next (done + next.items.length)
      (rest.drop (next.items.length - 1))
termination_by rest => rest.length
decreasing_by
  simp only [List.length_drop, List.length_cons]
  omega

/-- How runs are made of a list of `length` items, and joined. -/
def runPlan (mode : Mode) (sortRun : List α → Option (List α)) (room length : Nat) : Plan α :=
  ⟨nextRun precedes mode (minRun length), Run.join precedes sortRun room, mergeDepth length⟩

/-- Sorting by runs. -/
def sortByRuns (mode : Mode) (sortRun : List α → Option (List α)) (room : Nat)
    : List α → Option (List α)
  | [] => some []
  | items => do
    let plan := runPlan precedes mode sortRun room items.length
    let first ← plan.next items
    let whole ← plan.joinAll [] first first.items.length (items.drop first.items.length)
    whole.sorted? sortRun

end RecordQuery.StableSort
