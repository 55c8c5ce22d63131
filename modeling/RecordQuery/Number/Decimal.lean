import RecordQuery.Number.Binary64
import RecordQuery.Text.Numeral

/-! Decimal fractions: how a numeral is read as a double, and which decimal a double is written as.
A double is written with the fewest digits that read back as it, and with the nearest of those.
-/

namespace RecordQuery

/-- The number `digits * 10 ^ exponent`, with a sign. -/
structure Decimal where
  negative : Bool
  digits : Nat
  exponent : Int
  deriving DecidableEq

namespace Decimal

/-- The power of ten above the line of a decimal fraction with this exponent. -/
def upperPower (exponent : Int) : Nat :=
  Nat.pow 10 exponent.toNat

/-- The power of ten below the line of a decimal fraction with this exponent. -/
def lowerPower (exponent : Int) : Nat :=
  Nat.pow 10 (-exponent).toNat

/-- The magnitude nearest to `digits * 10 ^ exponent`. -/
def nearestUnits (digits : Nat) (exponent : Int) : Nat :=
  Binary64.nearestUnits (digits * upperPower exponent * Binary64.one) (lowerPower exponent)

/-- The power of ten of the place before the leading digit. -/
def order (d : Decimal) : Int :=
  (Text.digitsOf d.digits).length + d.exponent

/-- The nearest double, none when the value is beyond the largest double. A value from 10^310 up is
beyond it and one below 10^-330 rounds to zero, whatever the digits, so that no power of ten is
taken that the answer does not need.
-/
def toBinary64? (d : Decimal) : Option Binary64 :=
  if d.digits = 0 ∨ d.order < -330 then Binary64.ofQuotient? d.negative 0 1
  else if 310 < d.order then none
  else
    Binary64.ofQuotient? d.negative (d.digits * upperPower d.exponent * Binary64.one)
      (lowerPower d.exponent)

/-- A multiple of `10 ^ exponent` next to a magnitude that reads back as it: of the two, the nearer
one if it does, the even one if both are as near, and else the other one.
-/
def gridNeighbour? (units : Nat) (exponent : Int) : Option Nat :=
  let above := units * lowerPower exponent
  let below := Binary64.one * upperPower exponent
  [Binary64.roundQuotient above below, above / below, above / below + 1].find?
    (fun digits => nearestUnits digits exponent == units)

/-- The exact decimal value of a magnitude: a unit is 5^1074 times 10^-1074. -/
def exact (negative : Bool) (units : Nat) : Decimal :=
  ⟨negative, units * Nat.pow 5 1074, -1074⟩

/-- The first hit on the grids `10 ^ exponent`, `10 ^ (exponent - 1)` and so on, of 20 grids. -/
def shortest? (negative : Bool) (units : Nat) (exponent : Int) : Option Decimal :=
  (List.range 20).findSome? (fun (step : Nat) =>
    (gridNeighbour? units (exponent - step)).map (⟨negative, ·, exponent - step⟩))

/-- A power of ten above a magnitude, at most one order too high. -/
def leadingExponent (units : Nat) : Int :=
  Int.fdiv (((units.log2 : Int) - 1073) * 30103) 100000 + 1

/-- The decimal with the fewest digits that reads back as the double; 17 digits always do. -/
def ofBinary64 (x : Binary64) : Decimal :=
  if x.units = 0 then ⟨x.negative, 0, 0⟩
  else
    (shortest? x.negative x.units (leadingExponent x.units)).getD (exact x.negative x.units)

/-- How a decimal is laid out: leading digits in which places are written without an exponent, and
how an exponent that is not negative is marked.
-/
structure Layout where
  leastPlace : Int
  greatestPlace : Int
  exponentMark : List Char
  plusSign : List Char
  deriving DecidableEq

/-- The digits with a point, after `whole` of them; the point always has a digit on either side. -/
def positional (digits : List Char) (whole : Int) : List Char :=
  if whole ≤ 0 then ['0', '.'] ++ List.replicate (-whole).toNat '0' ++ digits
  else if digits.length ≤ whole.toNat then
    digits ++ List.replicate (whole.toNat - digits.length) '0' ++ ['.', '0']
  else digits.take whole.toNat ++ ['.'] ++ digits.drop whole.toNat

/-- The leading digit, the others after a point if there are any, and the power of ten. -/
def scientific (layout : Layout) (digits : List Char) (place : Int) : List Char :=
  let fraction := if digits.length ≤ 1 then [] else '.' :: digits.drop 1
  let sign := if place < 0 then ['-'] else layout.plusSign
  digits.take 1 ++ fraction ++ layout.exponentMark ++ sign ++ Text.digitsOf place.natAbs

/-- The text of a decimal. -/
def write (layout : Layout) (d : Decimal) : List Char :=
  let sign := if d.negative then ['-'] else []
  let digits := Text.digitsOf d.digits
  let place := d.order - 1
  if d.digits = 0 then sign ++ ['0', '.', '0']
  else if layout.leastPlace ≤ place ∧ place ≤ layout.greatestPlace then
    sign ++ positional digits (place + 1)
  else sign ++ scientific layout digits place

end Decimal

end RecordQuery
