/-! UTF-16 units: a character below U+10000 is one unit, any other is a surrogate pair. Lengths
and positions of text are counted in units, and texts are ordered unit by unit.
-/

namespace RecordQuery.Text

/-- The UTF-16 units of a character. -/
def unitsOfChar (c : Char) : List Nat :=
  if c.toNat < 0x10000 then [c.toNat]
  else [0xD800 + (c.toNat - 0x10000) / 0x400, 0xDC00 + (c.toNat - 0x10000) % 0x400]

/-- The UTF-16 form of a text. -/
def units (text : List Char) : List Nat :=
  text.flatMap unitsOfChar

/-- How many UTF-16 units a text has. -/
def unitCount (text : List Char) : Nat :=
  (units text).length

/-- The order of texts by their UTF-16 units, the shorter of two first where one begins the other.
-/
def compareUnits (left right : String) : Ordering :=
  List.compareLex compare (units left.toList) (units right.toList)

@[simp]
theorem units_append (left right : List Char) : units (left ++ right) = units left ++ units right :=
  List.flatMap_append

@[simp]
theorem unitCount_append (left right : List Char)
    : unitCount (left ++ right) = unitCount left + unitCount right := by
  simp [unitCount]

end RecordQuery.Text
