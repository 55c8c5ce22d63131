import RecordQuery.Number.Numeral

/-! Numerals read as doubles in steps: at most 64 bits of the digits are taken as a number, which is
then scaled by a power of ten. Each step is rounded, so the result is not always the nearest double.
The powers go up to 10^308, the highest one that is a double; lower values are reached by dividing
again.
-/

namespace RecordQuery

namespace Binary64

/-- The highest power of ten that is a double. -/
def maxPower : Nat := 308

/-- The double nearest to a power of ten, in units. -/
def powerUnits (power : Nat) : Nat :=
  nearestUnits (Nat.pow 10 power * one) 1

/-- A double times a power of ten, none where that is beyond the largest double. -/
def timesPower? (x : Binary64) (power : Nat) : Option Binary64 :=
  ofQuotient? x.negative (x.units * powerUnits power) one

/-- A double divided by a power of ten. -/
def overPower? (x : Binary64) (power : Nat) : Option Binary64 :=
  ofQuotient? x.negative (x.units * one) (powerUnits power)

/-- A double divided by the highest power of ten, as often as asked for or until it is zero, and then
by another power.
-/
def scaleDown? (x : Binary64) (power : Nat) : Nat → Option Binary64
  | 0 => x.overPower? power
  | times + 1 =>
    if x.units = 0 then some x
    else do
      let lower ← x.overPower? maxPower
      lower.scaleDown? power times

/-- The double that is computed for a number times a power of ten. -/
def ofParts? (negative : Bool) (number : Nat) (power : Int) : Option Binary64 := do
  let x ← ofQuotient? negative (number * one) 1
  if 0 ≤ power then
    if power ≤ maxPower then x.timesPower? power.toNat
    else if x.units = 0 then some x
    else none
  else
    let times := ((-power).toNat - 1) / maxPower
    x.scaleDown? ((-power).toNat - times * maxPower) times

end Binary64

namespace Numeral

/-- The digits that are taken behind a number while it has 64 bits at most, as one number, and how
many of them are taken.
-/
def takeDigits (start : Nat) : List Char → Nat × Nat
  | [] => (start, 0)
  | c :: rest =>
    let next := 10 * start + Text.digitValue c
    if next < twoPow 64 then
      let (number, count) := takeDigits next rest
      (number, count + 1)
    else (start, 0)

/-- The number of 64 bits and the power of ten that are read for the digits of a numeral: whole digits
that are not taken count as zeros, and those of the fraction are dropped.
-/
def significand (n : Numeral) : Nat × Int :=
  let (whole, wholeCount) := takeDigits 0 n.whole
  let (number, fractionCount) := takeDigits whole (n.fraction.getD [])
  (number, (n.whole.length : Int) - wholeCount - fractionCount)

/-- The double that is computed for a numeral, none where it is beyond the largest one. An exponent of
2^31 or more is beyond all others.
-/
def toScaled? (n : Numeral) : Option Binary64 :=
  let (number, power) := n.significand
  match n.exponent with
  | none => Binary64.ofParts? n.negative number power
  | some exponent =>
    if Text.digitsValue exponent.digits < twoPow 31 then
      Binary64.ofParts? n.negative number (power + exponent.value)
    else if number = 0 ∨ exponent.sign = some '-' then Binary64.ofQuotient? n.negative 0 1
    else none

end Numeral

end RecordQuery
