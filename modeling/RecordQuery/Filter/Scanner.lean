import RecordQuery.Error
import RecordQuery.Text.Alphanumeric
import RecordQuery.Text.Utf8

/-! The place of the filter reader in its text. A place counts the octets before it, so that errors
can name it, and how many conjunctions and disjunctions may still come.
-/

namespace RecordQuery

/-- What is left of a filter text, and where that starts. -/
structure Scanner where
  rest : List Char
  position : Nat
  joins : Nat

namespace Scanner

/-- The place after some more characters. -/
def advance (scanner : Scanner) (count : Nat) : Scanner :=
  { scanner with
    rest := scanner.rest.drop count
    position := scanner.position + Text.octetCount (scanner.rest.take count) }

/-- The place after the white space. -/
def skipBlanks (scanner : Scanner) : Scanner :=
  scanner.advance (scanner.rest.takeWhile Text.isBlank).length

/-- The word that starts here, empty if none does. -/
def word (scanner : Scanner) : List Char :=
  scanner.rest.takeWhile Text.isWordChar

/-- The character here. -/
def peek? (scanner : Scanner) : Option Char :=
  scanner.rest.head?

end Scanner

/-- A step of reading a filter: it moves on in the text or fails. -/
abbrev Scan := StateT Scanner (Except QueryError)

namespace Scan

/-- Fail for a reason that lies in the text. -/
def fail (error : ParseError) : Scan α :=
  throw (.parse error)

/-- Fail at something that is not supported. -/
def reject (error : Unsupported) : Scan α :=
  throw (.unsupported error)

/-- Move on over some characters. -/
def advance (count : Nat) : Scan Unit :=
  modify (·.advance count)

/-- Move on over white space. -/
def skipBlanks : Scan Unit :=
  modify Scanner.skipBlanks

/-- The character here, not taken. -/
def peek? : Scan (Option Char) := do
  return (← get).peek?

/-- The word after any white space, not taken. -/
def peekWord : Scan (List Char) := do
  skipBlanks
  return (← get).word

/-- Take a character after any white space. -/
def expect (expected : Char) : Scan Unit := do
  skipBlanks
  let scanner ← get
  match scanner.peek? with
  | some c =>
    if c = expected then advance 1 else fail (.expectedChar expected scanner.position c)
  | none => fail (.expectedCharAtEnd expected)

/-- Take a keyword if it is the next whole word. -/
def takeKeyword (keyword : List Char) : Scan Bool := do
  if (← peekWord) = keyword then
    advance keyword.length
    return true
  else
    return false

/-- Count a conjunction or a disjunction. -/
def takeJoin : Scan Unit := do
  let scanner ← get
  match scanner.joins with
  | 0 => fail .tooManyClauses
  | joins + 1 => set { scanner with joins := joins }

end Scan

end RecordQuery
