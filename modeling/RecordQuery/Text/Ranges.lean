/-! Sets of characters given by ranges of code points in ascending order. -/

namespace RecordQuery.Text

/-- Whether a code point lies in one of the ranges, which are ascending and do not overlap. -/
def inRanges (code : Nat) : List (Nat × Nat) → Bool
  | [] => false
  | (first, last) :: rest => if code < first then false else code ≤ last || inRanges code rest

end RecordQuery.Text
