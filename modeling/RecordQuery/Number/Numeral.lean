import RecordQuery.Number.Decimal

/-! Numerals as they are written: a sign, whole digits, a fraction and an exponent. Scanning takes
the longest run of characters that can belong to a numeral; whether the parts are complete is for
the format that reads them to say.
-/

namespace RecordQuery

/-- The part of a numeral from its exponent mark on. -/
structure Numeral.Exponent where
  mark : Char
  sign : Option Char
  digits : List Char
  deriving DecidableEq

/-- A numeral by its parts; `fraction` and `exponent` are there when their marks are. -/
structure Numeral where
  negative : Bool
  whole : List Char
  fraction : Option (List Char)
  exponent : Option Numeral.Exponent
  deriving DecidableEq

namespace Numeral

/-- The exponent at the start of a text, and what follows it. -/
def scanExponent : List Char → Option Exponent × List Char
  | mark :: rest =>
    if mark = 'e' ∨ mark = 'E' then
      match rest with
      | '+' :: more =>
        (some ⟨mark, some '+', more.takeWhile Text.isDigit⟩, more.dropWhile Text.isDigit)
      | '-' :: more =>
        (some ⟨mark, some '-', more.takeWhile Text.isDigit⟩, more.dropWhile Text.isDigit)
      | more => (some ⟨mark, none, more.takeWhile Text.isDigit⟩, more.dropWhile Text.isDigit)
    else (none, mark :: rest)
  | [] => (none, [])

/-- The fraction at the start of a text, and what follows it. -/
def scanFraction : List Char → Option (List Char) × List Char
  | '.' :: rest => (some (rest.takeWhile Text.isDigit), rest.dropWhile Text.isDigit)
  | rest => (none, rest)

/-- The numeral at the start of a text, and what follows it. -/
def scan (text : List Char) : Numeral × List Char :=
  let negative := text.head? = some '-'
  let unsigned := if negative then text.tail else text
  let (fraction, afterFraction) := scanFraction (unsigned.dropWhile Text.isDigit)
  let (exponent, rest) := scanExponent afterFraction
  (⟨negative, unsigned.takeWhile Text.isDigit, fraction, exponent⟩, rest)

/-- A numeral of digits alone, after its sign. -/
def isIntegral (n : Numeral) : Bool :=
  n.fraction.isNone && n.exponent.isNone

/-- The characters of an exponent. -/
def Exponent.text (e : Exponent) : List Char :=
  e.mark :: e.sign.toList ++ e.digits

/-- The characters of a numeral. -/
def text (n : Numeral) : List Char :=
  (if n.negative then ['-'] else []) ++ n.whole
    ++ (match n.fraction with | some digits => '.' :: digits | none => [])
    ++ (match n.exponent with | some e => e.text | none => [])

/-- The power of ten that an exponent stands for. -/
def Exponent.value (e : Exponent) : Int :=
  if e.sign = some '-' then -(Text.digitsValue e.digits : Int) else Text.digitsValue e.digits

/-- The decimal that a numeral stands for; an exponent mark needs digits. -/
def toDecimal? (n : Numeral) : Option Decimal :=
  let fraction := n.fraction.getD []
  let decimal (power : Int) : Decimal :=
    ⟨n.negative, Text.digitsValue (n.whole ++ fraction), power - fraction.length⟩
  match n.exponent with
  | none => some (decimal 0)
  | some e => if e.digits.isEmpty then none else some (decimal e.value)

/-- The integer that an integral numeral stands for. -/
def toInt (n : Numeral) : Int :=
  if n.negative then -(Text.digitsValue n.whole : Int) else Text.digitsValue n.whole

end Numeral

end RecordQuery
