/-! Sorting a block of items in order. Few items are put in one after the other; up to a block of
them are sorted in two halves, which are merged from both ends at once. The two ends meet where the
order is one, and where they do not, sorting stops without a result.
-/

namespace RecordQuery.StableSort

variable {α : Type} (precedes : α → α → Bool)

/-- Put an item into sorted items held last first, behind those that it does not precede. -/
def insertBehind (item : α) : List α → List α
  | [] => [item]
  | last :: before =>
    if precedes item last then last :: insertBehind item before else item :: last :: before

/-- Put items into sorted ones, one after the other. -/
def insertAll (sorted items : List α) : List α :=
  (items.foldl (fun held item => insertBehind precedes item held) sorted.reverse).reverse

/-- Sorting by putting in one item after the other. -/
def insertionSort (items : List α) : List α :=
  insertAll precedes [] items

/-- Two items in order. -/
def sortTwo (x y : α) : α × α :=
  if precedes y x then (y, x) else (x, y)

/-- Two pairs that are in order, as four items in order: the first and the last of all, and then
those between.
-/
def mergePairs (a b c d : α) : List α :=
  let (first, left, right, last) :=
    match precedes c a, precedes d b with
    | false, false => (a, b, c, d)
    | false, true => (a, c, d, b)
    | true, false => (c, a, b, d)
    | true, true => (c, a, d, b)
  let (left, right) := sortTwo precedes left right
  [first, left, right, last]

/-- Four items in order. -/
def sortFour (w x y z : α) : List α :=
  let (a, b) := sortTwo precedes w x
  let (c, d) := sortTwo precedes y z
  mergePairs precedes a b c d

/-- The first items of two sorted lists, taken in order, and how many of them each list gave. -/
structure Taken (α : Type) where
  items : List α
  fromLeft : Nat
  fromRight : Nat

/-- Take a number of items from the fronts of two sorted lists; on a tie the left one gives. -/
def takeFront : Nat → List α → List α → Taken α
  | count + 1, x :: xs, y :: ys =>
    if precedes y x then
      let later := takeFront count (x :: xs) ys
      ⟨y :: later.items, later.fromLeft, later.fromRight + 1⟩
    else
      let later := takeFront count xs (y :: ys)
      ⟨x :: later.items, later.fromLeft + 1, later.fromRight⟩
  | _, _, _ => ⟨[], 0, 0⟩

/-- Take a number of items from the backs of two sorted lists, the last one first; on a tie the
right one gives. It is taking from the front with the order and the sides turned round.
-/
def takeBack (count : Nat) (left right : List α) : Taken α :=
  takeFront (fun x y => precedes y x) count right.reverse left.reverse

/-- How many items are left to each of two lists of some items in all, once half of them has been
taken from either end: an odd one, of the left list if it has one left before its end.
-/
def oddItem (length fromLeft leftEnd : Nat) : Nat × Nat :=
  if length % 2 = 0 then (0, 0)
  else if fromLeft < leftEnd then (1, 0)
  else (0, 1)

/-- Merge two sorted lists from both ends: half of the items from the front and half from the back,
and an odd one between them. Unless the two ends meet in both lists there is no result.
-/
def mergeFromEnds (left right : List α) : Option (List α) :=
  let length := left.length + right.length
  let front := takeFront precedes (length / 2) left right
  let back := takeBack precedes (length / 2) left right
  let leftEnd := left.length - back.fromRight
  let rightEnd := right.length - back.fromLeft
  let odd := oddItem length front.fromLeft leftEnd
  if front.fromLeft + odd.1 = leftEnd ∧ front.fromRight + odd.2 = rightEnd then
    some
      (front.items ++ (left.drop front.fromLeft).take odd.1
        ++ (right.drop front.fromRight).take odd.2 ++ back.items.reverse)
  else none

/-- One half of a block. Where the block has eight items or more, its first four are sorted at once;
the others are put in one after the other.
-/
def sortHalf (blockLength : Nat) (half : List α) : List α :=
  match half with
  | w :: x :: y :: z :: rest =>
    if 8 ≤ blockLength then insertAll precedes (sortFour precedes w x y z) rest
    else insertionSort precedes half
  | _ => insertionSort precedes half

/-- A block in order, if the order is one. -/
def sortBlock (items : List α) : Option (List α) :=
  if items.length < 2 then some items
  else
    let half := items.length / 2
    mergeFromEnds precedes (sortHalf precedes items.length (items.take half))
      (sortHalf precedes items.length (items.drop half))

/-- The most items of a block. -/
def maxBlock : Nat := 32

end RecordQuery.StableSort
