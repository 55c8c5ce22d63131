/-! UTF-8 octets of text, and the text of octets that need not be UTF-8: each longest run of octets
that begins a character and does not complete it stands for one replacement character.
-/

namespace RecordQuery.Text

/-- The UTF-8 form of a text. -/
def octets (text : List Char) : List UInt8 :=
  text.flatMap String.utf8EncodeChar

/-- How many octets a text has. -/
def octetCount (text : List Char) : Nat :=
  (octets text).length

/-- What stands for octets that are no character. -/
def replacementChar : Char := Char.ofNat 0xFFFD

/-- A character of which some octets have been read: the bits they hold, the range that the next
octet has to lie in, and how many octets are to come after that one.
-/
structure PartialChar where
  bits : Nat
  low : UInt8
  high : UInt8
  more : Nat

/-- The text that an octet between characters completes, and the character that it begins. -/
def firstOctet (b : UInt8) : List Char × Option PartialChar :=
  let n := b.toNat
  if n < 0x80 then ([Char.ofNat n], none)
  else if n < 0xC2 then ([replacementChar], none)
  else if n < 0xE0 then ([], some ⟨n % 0x20, 0x80, 0xBF, 0⟩)
  else if n = 0xE0 then ([], some ⟨0, 0xA0, 0xBF, 1⟩)
  else if n = 0xED then ([], some ⟨0xD, 0x80, 0x9F, 1⟩)
  else if n < 0xF0 then ([], some ⟨n % 0x10, 0x80, 0xBF, 1⟩)
  else if n = 0xF0 then ([], some ⟨0, 0x90, 0xBF, 2⟩)
  else if n < 0xF4 then ([], some ⟨n % 8, 0x80, 0xBF, 2⟩)
  else if n = 0xF4 then ([], some ⟨4, 0x80, 0x8F, 2⟩)
  else ([replacementChar], none)

/-- The text that the next octet completes, and the character that is then under way. -/
def nextOctet (state : Option PartialChar) (b : UInt8) : List Char × Option PartialChar :=
  match state with
  | none => firstOctet b
  | some p =>
    if p.low ≤ b ∧ b ≤ p.high then
      let bits := p.bits * 0x40 + b.toNat % 0x40
      if p.more = 0 then ([Char.ofNat bits], none) else ([], some ⟨bits, 0x80, 0xBF, p.more - 1⟩)
    else
      let (text, next) := firstOctet b
      (replacementChar :: text, next)

/-- The text of the octets that follow those of a character under way. -/
def decodeFrom : Option PartialChar → List UInt8 → List Char
  | none, [] => []
  | some _, [] => [replacementChar]
  | state, b :: rest =>
    let (text, next) := nextOctet state b
    text ++ decodeFrom next rest

/-- The text of a row of octets. -/
def decodeOctets (bytes : List UInt8) : List Char :=
  decodeFrom none bytes

end RecordQuery.Text
