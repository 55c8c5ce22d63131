import RecordQuery.Filter.Printer

/-! Why a query cannot be read or run, as causes; their wording is in one place. A query may also
stop the program before it has come to anything.
-/

namespace RecordQuery

/-- Why a filter, a list of sort keys, a list of paths or a query string cannot be read. Positions
count octets.
-/
inductive ParseError where
  | emptyFilter
  | unexpected (text : String) (position : Nat)
  | expectedChar (expected : Char) (position : Nat) (found : Char)
  | expectedCharAtEnd (expected : Char)
  | nestedTooDeeply
  | tooManyClauses
  | testCompared (test : Filter) (operator : Comparison) (right : Operand)
  | expectedOperator (position : Nat) (found : String)
  | expectedOperatorAt (position : Nat)
  | expectedOperatorAtEnd
  | expectedOperand (position : Nat) (found : String)
  | expectedOperandAtEnd
  | argumentCount (name : String) (takes given : Nat)
  | testAsValue (test : StringTest)
  | unterminatedString (position : Nat)
  | expectedDigits (position : Nat)
  | invalidNumberAt (position : Nat)
  | invalidNumber (text : String)
  | path (error : PathError)
  | emptySortKey (text : String)
  | unknownDirection (direction path : String)
  | extraWord (word sortKey : String)
  | emptyPathItem (text : String)
  | starWithPaths
  | malformedQueryString (detail : String)
  deriving DecidableEq

/-- An operator or a function that a filter names and that there is not. -/
inductive Unsupported where
  | operator (name : String)
  | function (name : String)
  deriving DecidableEq

/-- What the arguments of a call have to be. -/
inductive Expected where
  | strings
  | numbers
  | stringsOrNumbers
  | validDates
  deriving DecidableEq

/-- An operand of a call with its value on the record at hand. -/
structure Argument where
  operand : Operand
  value : Option Json
  deriving DecidableEq

/-- An argument that the call of `name` cannot take. -/
structure TypeMismatch where
  name : String
  expected : Expected
  argument : Argument
  deriving DecidableEq

/-- The counts that a query may give. -/
inductive CountName where
  | skip
  | top
  | pageNumber
  | pageSize
  deriving DecidableEq

/-- Why there is no page. -/
inductive PagingError where
  | zeroTop
  | zeroPageSize
  | zeroPageNumber
  | unknownType (text : String)
  | notACount (name : CountName) (text : String)
  deriving DecidableEq

/-- Why a query cannot be read or run. -/
inductive QueryError where
  | parse (error : ParseError)
  | unsupported (error : Unsupported)
  | typeMismatch (error : TypeMismatch)
  | paging (error : PagingError)
  deriving DecidableEq

/-- Why there is no result: an error that is told, or a stop of the program, which tells none. -/
inductive Halt (ε : Type) where
  | told (error : ε)
  | stopped
  deriving DecidableEq

/-- A halt with its error told in other terms. -/
def Halt.map (change : ε → δ) : Halt ε → Halt δ
  | .told error => .told (change error)
  | .stopped => .stopped

/-- What there is, or a stop where there is nothing. -/
def Halt.orStop : Option α → Except (Halt ε) α
  | some value => .ok value
  | none => .error .stopped

def ParseError.message : ParseError → String
  | .emptyFilter => "empty filter expression"
  | .unexpected text position => "unexpected '" ++ text ++ "' at position " ++ toString position
  | .expectedChar expected position found =>
    "expected '" ++ expected.toString ++ "' at position " ++ toString position ++ ", got '"
      ++ found.toString ++ "'"
  | .expectedCharAtEnd expected => "expected '" ++ expected.toString ++ "', got end of input"
  | .nestedTooDeeply => "expression nested too deeply"
  | .tooManyClauses => "filter has too many clauses"
  | .testCompared test operator right =>
    test.render ++ " can only be compared with true or false, got '" ++ operator.name ++ " "
      ++ right.render ++ "'"
  | .expectedOperator position found =>
    "expected comparison operator at position " ++ toString position ++ ", got '" ++ found ++ "'"
  | .expectedOperatorAt position =>
    "expected comparison operator at position " ++ toString position
  | .expectedOperatorAtEnd => "expected comparison operator, got end of input"
  | .expectedOperand position found =>
    "expected operand at position " ++ toString position ++ ", got keyword '" ++ found ++ "'"
  | .expectedOperandAtEnd => "expected operand, got end of input"
  | .argumentCount name takes given =>
    name ++ "() takes " ++ toString takes ++ " argument(s), got " ++ toString given
  | .testAsValue test => test.name ++ "() is a condition and cannot be used as a value"
  | .unterminatedString position =>
    "unterminated string literal at position " ++ toString position
  | .expectedDigits position => "expected digits after '-' at position " ++ toString position
  | .invalidNumberAt position => "invalid number literal at position " ++ toString position
  | .invalidNumber text => "invalid number literal '" ++ text ++ "'"
  | .path error => error.message
  | .emptySortKey text => "empty orderby item in '" ++ text ++ "'"
  | .unknownDirection direction sortPath =>
    "unknown sort direction '" ++ direction ++ "' for '" ++ sortPath ++ "'"
  | .extraWord word sortKey => "unexpected '" ++ word ++ "' after orderby item '" ++ sortKey ++ "'"
  | .emptyPathItem text => "empty select item in '" ++ text ++ "'"
  | .starWithPaths => "'*' cannot be combined with other select paths"
  | .malformedQueryString detail => "malformed query string: " ++ detail

def Unsupported.message : Unsupported → String
  | .operator name => name
  | .function name => "function '" ++ name ++ "'"

def Expected.message : Expected → String
  | .strings => "strings"
  | .numbers => "numbers"
  | .stringsOrNumbers => "strings or numbers"
  | .validDates => "valid dates"

/-- The kind of a value that may be absent. -/
def Json.kindName : Option Json → String
  | none => "undefined"
  | some value => value.kind.name

/-- An argument as an error shows it: the value under a path, or else the operand's text. -/
def Argument.message (argument : Argument) : String :=
  match argument.operand with
  | .property path =>
    (match argument.value with
      | some value => value.render
      | none => "undefined") ++ " (" ++ path.text ++ ")"
  | operand => operand.render

def TypeMismatch.message (error : TypeMismatch) : String :=
  error.name ++ "() only works with " ++ error.expected.message ++ "; " ++ error.argument.message
    ++ " is " ++ Json.kindName error.argument.value

/-- The parameter that gives a count. -/
def CountName.name : CountName → String
  | .skip => "skip"
  | .top => "top"
  | .pageNumber => "pagenumber"
  | .pageSize => "pagesize"

def PagingError.message : PagingError → String
  | .zeroTop => "top must be at least 1 for cursor pagination"
  | .zeroPageSize => "pagesize must be at least 1"
  | .zeroPageNumber => "pagenumber starts at 1"
  | .unknownType text =>
    "unknown pagingtype '" ++ text ++ "', expected offset, cursor or paging"
  | .notACount name text =>
    name.name ++ " must be a non-negative integer, got '" ++ text ++ "'"

end RecordQuery
