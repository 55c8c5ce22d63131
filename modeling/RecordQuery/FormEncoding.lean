import RecordQuery.Text.Utf8

/-! Form-encoded names and values, as query strings hold them: pairs are joined by ampersands, a
name and its value by an equals sign, a space is a plus sign, and any octet may be written as a
percent sign with two hexadecimal digits. Reading never fails: an escape that is not complete stands
for itself, and octets that are not UTF-8 become replacement characters.
-/

namespace RecordQuery.FormEncoding

/-- A name and its value. -/
abbrev Pair := String × String

/-- The value of a hexadecimal digit. -/
def hexDigit? (b : UInt8) : Option UInt8 :=
  if 0x30 ≤ b ∧ b ≤ 0x39 then some (b - 0x30)
  else if 0x41 ≤ b ∧ b ≤ 0x46 then some (b - 0x41 + 10)
  else if 0x61 ≤ b ∧ b ≤ 0x66 then some (b - 0x61 + 10)
  else none

/-- The octet that two hexadecimal digits stand for. -/
def escapedOctet? : List UInt8 → Option UInt8
  | a :: b :: _ => do
    let high ← hexDigit? a
    let low ← hexDigit? b
    some (16 * high + low)
  | _ => none

/-- The octets that encoded octets stand for, after the digits of an escape are dropped. -/
def decodeAfter : Nat → List UInt8 → List UInt8
  | _, [] => []
  | digits + 1, _ :: rest => decodeAfter digits rest
  | 0, a :: rest =>
    if a = 0x2B then 0x20 :: decodeAfter 0 rest
    else if a = 0x25 then
      match escapedOctet? rest with
      | some b => b :: decodeAfter 2 rest
      | none => a :: decodeAfter 0 rest
    else a :: decodeAfter 0 rest

/-- The text that encoded octets stand for. -/
def decodeText (encoded : List UInt8) : String :=
  String.ofList (Text.decodeOctets (decodeAfter 0 encoded))

/-- The pair written between two ampersands; without an equals sign it is a name alone. -/
def decodePair (encoded : List UInt8) : Pair :=
  (decodeText (encoded.takeWhile (· != 0x3D)), decodeText ((encoded.dropWhile (· != 0x3D)).drop 1))

/-- The pairs of an encoded text, in order. -/
def decode (text : String) : List Pair :=
  (((Text.octets text.toList).splitOn 0x26).filter (fun piece => !piece.isEmpty)).map decodePair

/-- What reading an encoded text comes to: its pairs, or else why there are none. There is no text
that is refused.
-/
def read (text : String) : Except String (List Pair) :=
  .ok (decode text)

/-- The octets that stand for themselves: letters, digits and `*`, `-`, `.`, `_`. -/
def isPlain (b : UInt8) : Bool :=
  (0x30 ≤ b && b ≤ 0x39) || (0x41 ≤ b && b ≤ 0x5A) || (0x61 ≤ b && b ≤ 0x7A) || b == 0x2A
    || b == 0x2D || b == 0x2E || b == 0x5F

/-- The encoded form of an octet. -/
def encodeOctet (b : UInt8) : List Char :=
  if isPlain b then [Char.ofNat b.toNat]
  else if b = 0x20 then ['+']
  else ['%', (Nat.digitChar (b.toNat / 16)).toUpper, (Nat.digitChar (b.toNat % 16)).toUpper]

/-- The encoded form of a text. -/
def encodeText (s : String) : List Char :=
  (Text.octets s.toList).flatMap encodeOctet

/-- The encoded form of a pair. -/
def encodePair (pair : Pair) : List Char :=
  encodeText pair.1 ++ '=' :: encodeText pair.2

/-- The encoded form of a list of pairs. -/
def encode (pairs : List Pair) : String :=
  String.ofList (['&'].intercalate (pairs.map encodePair))

end RecordQuery.FormEncoding
