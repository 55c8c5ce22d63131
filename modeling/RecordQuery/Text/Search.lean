/-! Finding one text inside another. The empty text stands before every character and at the end.
-/

namespace RecordQuery.Text

/-- How many characters stand before the first occurrence of `needle`, if it occurs. -/
def indexOf? (needle : List Char) : List Char → Option Nat
  | [] => if needle.isEmpty then some 0 else none
  | c :: rest =>
    if needle.isPrefixOf (c :: rest) then some 0 else (indexOf? needle rest).map (· + 1)

/-- Whether `needle` occurs somewhere in the text. -/
def occursIn (needle text : List Char) : Bool :=
  (indexOf? needle text).isSome

/-- Put `insert` before every character and at the end. -/
def interleave (insert : List Char) (text : List Char) : List Char :=
  insert ++ text.flatMap (fun c => c :: insert)

/-- Replace every occurrence of a text that is not empty; `pending` characters of the occurrence
found last are still to be dropped.
-/
def replaceFrom (needle insert : List Char) : Nat → List Char → List Char
  | _, [] => []
  | pending + 1, _ :: rest => replaceFrom needle insert pending rest
  | 0, c :: rest =>
    if needle.isPrefixOf (c :: rest) then
      insert ++ replaceFrom needle insert (needle.length - 1) rest
    else c :: replaceFrom needle insert 0 rest

/-- Replace every occurrence of `needle`, from the left and without overlap; an empty `needle`
occurs before every character and at the end.
-/
def replaceAll (needle insert text : List Char) : List Char :=
  if needle.isEmpty then interleave insert text else replaceFrom needle insert 0 text

end RecordQuery.Text
