import RecordQuery.Path.Basic

/-! Filters: conditions on a record, built from comparisons, string tests, conjunctions and
disjunctions. The operands of a condition are paths, literal values and function calls; a call has
as many arguments as its function takes by its form.
-/

namespace RecordQuery

/-- The functions of one argument. -/
inductive UnaryFunction where
  | toLower
  | toUpper
  | trim
  | length
  | year
  | month
  | day
  | hour
  | minute
  | second
  | round
  | floor
  | ceiling
  deriving DecidableEq

/-- The functions of two arguments; `substring` joins its arguments as `concat` does. -/
inductive BinaryFunction where
  | indexOf
  | concat
  | substring
  deriving DecidableEq

/-- The functions of three arguments. -/
inductive TernaryFunction where
  | replace
  deriving DecidableEq

/-- The functions that a call may name. -/
inductive Function where
  | unary (function : UnaryFunction)
  | binary (function : BinaryFunction)
  | ternary (function : TernaryFunction)
  deriving DecidableEq

namespace Function

/-- The word for a function in a filter text. -/
def name : Function → String
  | .unary .toLower => "tolower"
  | .unary .toUpper => "toupper"
  | .unary .trim => "trim"
  | .unary .length => "length"
  | .unary .year => "year"
  | .unary .month => "month"
  | .unary .day => "day"
  | .unary .hour => "hour"
  | .unary .minute => "minute"
  | .unary .second => "second"
  | .unary .round => "round"
  | .unary .floor => "floor"
  | .unary .ceiling => "ceiling"
  | .binary .indexOf => "indexof"
  | .binary .concat => "concat"
  | .binary .substring => "substring"
  | .ternary .replace => "replace"

def all : List Function :=
  [
    .unary .toLower, .unary .toUpper, .unary .trim, .unary .length, .unary .year, .unary .month,
    .unary .day, .unary .hour, .unary .minute, .unary .second, .unary .round, .unary .floor,
    .unary .ceiling, .binary .indexOf, .binary .concat, .binary .substring, .ternary .replace
  ]

def ofName? (name : String) : Option Function :=
  all.find? (fun function => function.name = name)

/-- How many arguments a function takes. -/
def arity : Function → Nat
  | .unary _ => 1
  | .binary _ => 2
  | .ternary _ => 3

end Function

/-- The comparison operators. -/
inductive Comparison where
  | eq
  | ne
  | lt
  | le
  | gt
  | ge
  deriving DecidableEq

namespace Comparison

/-- The word for an operator in a filter text. -/
def name : Comparison → String
  | .eq => "eq"
  | .ne => "ne"
  | .lt => "lt"
  | .le => "le"
  | .gt => "gt"
  | .ge => "ge"

def all : List Comparison := [.eq, .ne, .lt, .le, .gt, .ge]

def ofName? (name : String) : Option Comparison :=
  all.find? (fun operator => operator.name = name)

end Comparison

/-- The tests of one string against another. -/
inductive StringTest where
  | startsWith
  | endsWith
  | substringOf
  deriving DecidableEq

namespace StringTest

/-- The word for a test in a filter text. -/
def name : StringTest → String
  | .startsWith => "startswith"
  | .endsWith => "endswith"
  | .substringOf => "substringof"

def all : List StringTest := [.startsWith, .endsWith, .substringOf]

def ofName? (name : String) : Option StringTest :=
  all.find? (fun test => test.name = name)

end StringTest

/-- An expression for a value. -/
inductive Operand where
  | property (path : PropertyPath)
  | literal (value : Json)
  | unary (function : UnaryFunction) (argument : Operand)
  | binary (function : BinaryFunction) (first second : Operand)
  | ternary (function : TernaryFunction) (first second third : Operand)
  deriving DecidableEq

/-- The call of a function, none if it takes another number of arguments. -/
def Operand.call? : Function → List Operand → Option Operand
  | .unary function, [argument] => some (.unary function argument)
  | .binary function, [first, second] => some (.binary function first second)
  | .ternary function, [first, second, third] => some (.ternary function first second third)
  | _, _ => none

/-- A condition on a record. -/
inductive Filter where
  | comparison (operator : Comparison) (left right : Operand)
  | stringTest (test : StringTest) (first second : Operand)
  | and (left right : Filter)
  | or (left right : Filter)
  deriving DecidableEq

end RecordQuery
