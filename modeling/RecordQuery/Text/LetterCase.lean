import RecordQuery.Text.LetterCase.Context
import RecordQuery.Text.LetterCase.Table

/-! Letter case by the full Unicode mappings: one character may become several, and a capital sigma
becomes the final sigma where a word ends.
-/

namespace RecordQuery.Text

namespace LetterCase

/-- The code point that the first matching run maps a code point to. -/
def mapByRuns (code : Nat) : List Run → Nat
  | [] => code
  | run :: rest =>
    if code < run.first then code
    else if code ≤ run.last ∧ (code - run.first) % run.step = 0 then (code + run.shift).toNat
    else mapByRuns code rest

/-- The lower-case form of a character outside any text. -/
def lowerChar (c : Char) : List Char :=
  if c.toNat = 0x130 then ['i', Char.ofNat 0x307]
  else [Char.ofNat (mapByRuns c.toNat lowerRuns)]

/-- The upper-case form of a character. -/
def upperChar (c : Char) : List Char :=
  match upperExpansions.find? (fun entry => entry.1 == c.toNat) with
  | some entry => entry.2.map Char.ofNat
  | none => [Char.ofNat (mapByRuns c.toNat upperRuns)]

/-- The lower-case form of a text; `before` is what precedes it, last character first. -/
def lowerAfter : List Char → List Char → List Char
  | _, [] => []
  | before, c :: rest =>
    let lowered :=
      if c.toNat = 0x3A3 then
        if startsCased before && !startsCased rest then [Char.ofNat 0x3C2] else [Char.ofNat 0x3C3]
      else lowerChar c
    lowered ++ lowerAfter (c :: before) rest

end LetterCase

/-- The text in lower case. -/
def toLower (text : List Char) : List Char :=
  LetterCase.lowerAfter [] text

/-- The text in upper case. -/
def toUpper (text : List Char) : List Char :=
  text.flatMap LetterCase.upperChar

end RecordQuery.Text
