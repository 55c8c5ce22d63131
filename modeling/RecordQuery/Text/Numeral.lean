import RecordQuery.Number.TwoPow

/-! Numerals: decimal ones, written without leading zeros and read with an optional sign, and the
digits of hexadecimal ones.
-/

namespace RecordQuery.Text

/-- An ASCII digit. -/
def isDigit (c : Char) : Bool :=
  '0' ≤ c && c ≤ '9'

/-- The value of an ASCII digit. -/
def digitValue (c : Char) : Nat :=
  c.toNat - '0'.toNat

/-- The value of a hexadecimal digit, in upper or lower case. -/
def hexDigit? (c : Char) : Option Nat :=
  if '0' ≤ c ∧ c ≤ '9' then some (c.toNat - '0'.toNat)
  else if 'a' ≤ c ∧ c ≤ 'f' then some (c.toNat - 'a'.toNat + 10)
  else if 'A' ≤ c ∧ c ≤ 'F' then some (c.toNat - 'A'.toNat + 10)
  else none

/-- The number that a row of digits stands for, after the digits of `start`. -/
def digitsValueFrom (start : Nat) (digits : List Char) : Nat :=
  digits.foldl (fun total c => 10 * total + digitValue c) start

/-- The number that a row of digits stands for. -/
def digitsValue (digits : List Char) : Nat :=
  digitsValueFrom 0 digits

/-- The decimal digits of a number. -/
def digitsOf (n : Nat) : List Char :=
  Nat.toDigits 10 n

/-- The number written by one or more digits and nothing else. -/
def natural? (text : List Char) : Option Nat :=
  if text.isEmpty || !text.all isDigit then none else some (digitsValue text)

/-- An unsigned 64-bit number: digits, after an optional plus sign. -/
def unsigned64? (text : List Char) : Option UInt64 :=
  let digits := if text.head? = some '+' then text.tail else text
  match natural? digits with
  | some n => if n < twoPow 64 then some (UInt64.ofNat n) else none
  | none => none

end RecordQuery.Text
