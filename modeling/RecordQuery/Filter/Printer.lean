import RecordQuery.Filter.Basic
import RecordQuery.Json.Printer

/-! The text of operands and filters. A quote inside a string literal is written twice, and a
disjunction stands in parentheses where it is a side of a conjunction.
-/

namespace RecordQuery

/-- The text of a string between quotes, each quote in it doubled. -/
def Text.quoted (s : String) : List Char :=
  '\'' :: s.toList.flatMap (fun c => if c = '\'' then ['\'', '\''] else [c]) ++ ['\'']

/-- The text of a literal. -/
def Json.literalChars : Json → List Char
  | .string s => Text.quoted s
  | value => value.chars

/-- A call's text: the name and the arguments in parentheses. -/
def Text.call (name : String) (arguments : List (List Char)) : List Char :=
  name.toList ++ '(' :: [',', ' '].intercalate arguments ++ [')']

/-- The text of an operand. -/
def Operand.chars : Operand → List Char
  | .property path => path.text.toList
  | .literal value => value.literalChars
  | .unary function argument => Text.call (Function.unary function).name [argument.chars]
  | .binary function first second =>
    Text.call (Function.binary function).name [first.chars, second.chars]
  | .ternary function first second third =>
    Text.call (Function.ternary function).name [first.chars, second.chars, third.chars]

/-- A disjunction, which binds weaker than a conjunction. -/
def Filter.isDisjunction : Filter → Bool
  | .or _ _ => true
  | _ => false

/-- A text in parentheses, where they are needed. -/
def Text.grouped (needed : Bool) (text : List Char) : List Char :=
  if needed then '(' :: text ++ [')'] else text

/-- The text of a filter. -/
def Filter.chars : Filter → List Char
  | .comparison operator left right =>
    left.chars ++ ' ' :: operator.name.toList ++ ' ' :: right.chars
  | .stringTest test first second => Text.call test.name [first.chars, second.chars]
  | .and left right =>
    Text.grouped left.isDisjunction left.chars ++ [' ', 'a', 'n', 'd', ' ']
      ++ Text.grouped right.isDisjunction right.chars
  | .or left right => left.chars ++ [' ', 'o', 'r', ' '] ++ right.chars

/-- The text of an operand. -/
def Operand.render (operand : Operand) : String :=
  String.ofList operand.chars

/-- The text of a filter. -/
def Filter.render (filter : Filter) : String :=
  String.ofList filter.chars

end RecordQuery
