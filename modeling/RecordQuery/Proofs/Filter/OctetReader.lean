import RecordQuery.Filter.Parser

/-! The filter reader on the octets of a text. Its cursor is a count of octets, which has to fall
between two characters wherever it is moved to and wherever the text is cut; it counts the
parentheses that are open and the joins so far. What such a reader must never do is a fault: to cut
or to stand inside a character, to close more parentheses than are open, to run out of the steps of
a loop or of the levels of its recursion.
-/

namespace RecordQuery

namespace Text

/-- A text parted behind some octets, none if they end inside a character or behind the end. -/
def partOctets? : List Char → Nat → Option (List Char × List Char)
  | text, 0 => some ([], text)
  | [], _ + 1 => none
  | c :: rest, count + 1 =>
    if octetCount [c] ≤ count + 1 then
      (partOctets? rest (count + 1 - octetCount [c])).map
        (fun (before, after) => (c :: before, after))
    else none

/-- The slice of a text between two counts of octets, none if it ends before it starts or one of
them is not between two characters.
-/
def slice? (text : List Char) (start stop : Nat) : Option (List Char) :=
  if start ≤ stop then do
    let (_, rest) ← partOctets? text start
    let (found, _) ← partOctets? rest (stop - start)
    return found
  else none

/-- The octets in front of the first character with a property. -/
def findOctet? (p : Char → Bool) : List Char → Option Nat
  | [] => none
  | c :: rest => if p c then some 0 else (findOctet? p rest).map (octetCount [c] + ·)

end Text

/-- The place of the reader in octets, the parentheses that are open there, and the joins so far. -/
structure Cursor where
  position : Nat
  depth : Nat
  joins : Nat
  deriving DecidableEq

/-- What the reader must never do. -/
inductive Fault where
  | slice (start stop : Nat)
  | position (position : Nat)
  | depth
  | loop
  | recursion
  deriving DecidableEq

/-- Why the reader stops. -/
inductive Stop where
  | error (error : QueryError)
  | fault (fault : Fault)
  deriving DecidableEq

/-- A step of reading octets: it moves the cursor or stops. -/
abbrev Reading := StateT Cursor (Except Stop)

namespace Reading

/-- A fault of the reader. -/
def fault (fault : Fault) : Reading α :=
  throw (.fault fault)

/-- Fail for a reason that lies in the text. -/
def fail (error : ParseError) : Reading α :=
  throw (.error (.parse error))

/-- Fail at something that is not supported. -/
def reject (error : Unsupported) : Reading α :=
  throw (.error (.unsupported error))

/-- Cut a slice out of a text. -/
def slice (text : List Char) (start stop : Nat) : Reading (List Char) :=
  match Text.slice? text start stop with
  | some found => return found
  | none => fault (.slice start stop)

/-- Count a parenthesis that opens. -/
def enter : Reading Unit := do
  modify fun cursor => { cursor with depth := cursor.depth + 1 }
  if Scan.maxNesting < (← get).depth then fail .nestedTooDeeply

/-- Count a parenthesis that closes. -/
def leave : Reading Unit := do
  let cursor ← get
  match cursor.depth with
  | 0 => fault .depth
  | depth + 1 => set { cursor with depth := depth }

/-- Count a conjunction or a disjunction. -/
def countJoin : Reading Unit := do
  modify fun cursor => { cursor with joins := cursor.joins + 1 }
  if Scan.maxJoins < (← get).joins then fail .tooManyClauses

-----------------------------------------------------------------------------------------
-- Moves in the text
-----------------------------------------------------------------------------------------

section Text

variable (text : List Char)

/-- The steps of a loop that takes at least one octet in each. -/
def stepsFor : Nat :=
  Text.octetCount text + 1

/-- The text from the cursor on. -/
def remaining : Reading (List Char) := do
  slice text (← get).position (Text.octetCount text)

/-- The cursor has reached the end. -/
def isAtEnd : Reading Bool := do
  return Text.octetCount text ≤ (← get).position

/-- The character at the cursor, not taken. -/
def peek : Reading (Option Char) := do
  return (← remaining text).head?

/-- Put the cursor somewhere, which has to be between two characters. -/
def moveTo (position : Nat) : Reading Unit := do
  if (Text.partOctets? text position).isSome then
    modify fun cursor => { cursor with position := position }
  else fault (.position position)

/-- Move the cursor on by some octets. -/
def advance (count : Nat) : Reading Unit := do
  moveTo text ((← get).position + count)

/-- Take the character at the cursor. -/
def bump : Reading (Option Char) := do
  match ← peek text with
  | some c =>
    advance text (Text.octetCount [c])
    return some c
  | none => return none

/-- Move on over the characters with a property, each by a width that it is known to have. -/
def skipWhile (p : Char → Bool) (width : Char → Nat) : Nat → Reading Unit
  | 0 => fault .loop
  | steps + 1 => do
    match (← peek text).filter p with
    | some c =>
      advance text (width c)
      skipWhile p width steps
    | none => return ()

/-- Move on over white space. -/
def skipBlanks : Reading Unit :=
  skipWhile text Text.isBlank (fun c => Text.octetCount [c]) (stepsFor text)

/-- Move on over digits, which have one octet each. -/
def skipDigits : Reading Unit :=
  skipWhile text Text.isDigit (fun _ => 1) (stepsFor text)

/-- Take a character after any white space. -/
def expect (expected : Char) : Reading Unit := do
  skipBlanks text
  match ← peek text with
  | some c =>
    if c = expected then advance text (Text.octetCount [c])
    else fail (.expectedChar expected (← get).position c)
  | none => fail (.expectedCharAtEnd expected)

/-- The word at the cursor, not taken and empty if there is none. -/
def wordHere : Reading (List Char) := do
  let rest ← remaining text
  let stop := (Text.findOctet? (fun c => !Text.isWordChar c) rest).getD (Text.octetCount rest)
  slice rest 0 stop

/-- The word after any white space, not taken and empty if there is none. -/
def peekWord : Reading (List Char) := do
  skipBlanks text
  wordHere text

/-- Take a keyword if it is the next whole word. -/
def takeKeyword (keyword : List Char) : Reading Bool := do
  if (← peekWord text) = keyword then
    advance text (Text.octetCount keyword)
    return true
  else
    return false

-----------------------------------------------------------------------------------------
-- Literals and paths
-----------------------------------------------------------------------------------------

/-- The rest of a quoted text that starts at `start`: a quote closes it unless another one follows.
-/
def quotedBody (start : Nat) : Nat → Reading (List Char)
  | 0 => fault .loop
  | steps + 1 => do
    match ← bump text with
    | none => fail (.unterminatedString start)
    | some c =>
      if c = '\'' then
        if (← peek text) = some '\'' then
          advance text 1
          return '\'' :: (← quotedBody start steps)
        else return []
      else return c :: (← quotedBody start steps)

/-- A quoted text. -/
def quoted : Reading String := do
  let start := (← get).position
  expect text '\''
  return String.ofList (← quotedBody text start (stepsFor text))

/-- Take a character if it is one of some. -/
def takeAnyOf (marks : List Char) : Reading Bool := do
  if (← peek text).any (· ∈ marks) then
    advance text 1
    return true
  else
    return false

/-- The fraction of a number, if it has one. -/
def fraction : Reading Unit := do
  if ← takeAnyOf text ['.'] then skipDigits text

/-- The exponent of a number, if it has one. -/
def exponent : Reading Unit := do
  if ← takeAnyOf text ['e', 'E'] then
    let _ ← takeAnyOf text ['+', '-']
    skipDigits text

/-- The end of a number that starts at `start`. -/
def numberEnd (start : Nat) (chars : List Char) : Reading Operand := do
  if (← peek text).any Text.isWordChar then fail (.invalidNumberAt start)
  match Scan.numeralValue? (Numeral.scan chars).1 with
  | some value => return .literal (.number value)
  | none => fail (.invalidNumber (String.ofList chars))

/-- A number. -/
def number : Reading Operand := do
  let start := (← get).position
  let _ ← takeAnyOf text ['-']
  let digits := (← get).position
  skipDigits text
  if (← get).position = digits then fail (.expectedDigits start)
  fraction text
  exponent text
  let chars ← slice text start (← get).position
  let _ ← takeAnyOf text ['m', 'M', 'd', 'D', 'f', 'F', 'l', 'L']
  numberEnd text start chars

/-- The names of a path that starts at `start`, each behind a slash. -/
def pathNames (start : Nat) : Nat → Reading Unit
  | 0 => fault .loop
  | steps + 1 => do
    if (← peek text) = some '/' then
      advance text 1
      let name ← wordHere text
      if name = [] then
        let chars ← slice text start (← get).position
        fail (.path (.emptyName (String.ofList chars)))
      advance text (Text.octetCount name)
      pathNames start steps
    else return ()

/-- A path that starts at `start`, behind its first name. -/
def pathFrom (start : Nat) : Reading Operand := do
  pathNames text start (stepsFor text)
  let chars ← slice text start (← get).position
  match PropertyPath.parse (String.ofList chars) with
  | .ok path => return .property path
  | .error error => fail (.path error)

-----------------------------------------------------------------------------------------
-- Operands
-----------------------------------------------------------------------------------------

/-- A call of a function, at its opening parenthesis. -/
def call (name : String) (arguments : Reading (List Operand)) : Reading Operand :=
  match StringTest.ofName? name, Function.ofName? name with
  | some test, _ => fail (.testAsValue test)
  | none, none => reject (.function name)
  | none, some function => do
    let operands ← arguments
    match Operand.call? function operands with
    | some operand => return operand
    | none => fail (.argumentCount name function.arity operands.length)

/-- An operand that starts with a word. -/
def wordOperand (arguments : Reading (List Operand)) : Reading Operand := do
  let start := (← get).position
  let chars ← peekWord text
  let word := String.ofList chars
  advance text (Text.octetCount chars)
  let next ← peek text
  if word ∈ Scan.literalTypes ∧ next = some '\'' then return .literal (.string (← quoted text))
  else
    match Scan.wordValue? word, next == some '/' with
    | some value, false => return .literal value
    | _, _ =>
      let behind := (← get).position
      skipBlanks text
      if (← peek text) = some '(' then call word arguments
      else
        moveTo text behind
        if word ∈ Scan.unsupportedOperators then reject (.operator word)
        else if word = "and" ∨ word = "or" ∨ (Comparison.ofName? word).isSome then
          fail (.expectedOperand start word)
        else pathFrom text start

/-- An operand, given the reader of the arguments of a call. -/
def operandWith (arguments : Reading (List Operand)) : Reading Operand := do
  skipBlanks text
  match ← peek text with
  | none => fail .expectedOperandAtEnd
  | some c =>
    if c = '\'' then return .literal (.string (← quoted text))
    else if Text.isDigit c ∨ c = '-' then number text
    else if Text.isWordChar c then wordOperand text arguments
    else fail (.unexpected c.toString (← get).position)

/-- One operand or more with commas between them. -/
def operandList (operand : Reading Operand) : Nat → Reading (List Operand)
  | 0 => fault .loop
  | steps + 1 => do
    let first ← operand
    skipBlanks text
    if (← peek text) = some ',' then
      advance text 1
      return first :: (← operandList operand steps)
    else
      return [first]

/-- The arguments of a call, given the reader of one. -/
def argumentsWith (operand : Reading Operand) : Reading (List Operand) := do
  expect text '('
  enter
  skipBlanks text
  let operands ←
    if (← peek text) = some ')' then pure [] else operandList text operand (stepsFor text)
  expect text ')'
  leave
  return operands

/-- An operand, with at most some readers of operands inside one another. -/
def operand : Nat → Reading Operand
  | 0 => fault .recursion
  | levels + 1 => operandWith text (argumentsWith text (operand levels))

/-- The arguments of a call in an operand or a condition of some level. -/
def arguments : Nat → Reading (List Operand)
  | 0 => fault .recursion
  | levels + 1 => argumentsWith text (operand text levels)

-----------------------------------------------------------------------------------------
-- Conditions
-----------------------------------------------------------------------------------------

/-- Fail at an operator that is not supported. -/
def rejectArithmetic : Reading Unit := do
  let word := String.ofList (← peekWord text)
  if word ∈ Scan.unsupportedOperators then reject (.operator word)

/-- A comparison operator. -/
def comparison : Reading Comparison := do
  rejectArithmetic text
  let word ← peekWord text
  match Comparison.ofName? (String.ofList word) with
  | some operator =>
    advance text (Text.octetCount word)
    return operator
  | none =>
    let position := (← get).position
    if word ≠ [] then fail (.expectedOperator position (String.ofList word))
    else if ← isAtEnd text then fail .expectedOperatorAtEnd
    else fail (.expectedOperatorAt position)

/-- What a condition starts with, before its operator is known. -/
inductive Term where
  | operand (operand : Operand)
  | test (filter : Filter)

/-- A string test has two arguments. -/
def testWith (test : StringTest) : List Operand → Reading Term
  | [first, second] => return .test (.stringTest test first second)
  | operands => fail (.argumentCount test.name 2 operands.length)

/-- A string test with its arguments, or else an operand: the cursor goes back where a word with the
name of a test is not followed by arguments.
-/
def term (operand : Reading Operand) (arguments : Reading (List Operand)) : Reading Term := do
  match StringTest.ofName? (String.ofList (← peekWord text)) with
  | none => return .operand (← operand)
  | some test =>
    let start := (← get).position
    advance text (Text.octetCount test.name.toList)
    skipBlanks text
    if (← peek text) = some '(' then testWith test (← arguments)
    else
      moveTo text start
      return .operand (← operand)

/-- The truth value with which a test may be compared after it. -/
def testComparison (operand : Reading Operand) (test : Filter) : Reading Filter := do
  match Comparison.ofName? (String.ofList (← peekWord text)) with
  | none => return test
  | some operator =>
    advance text (Text.octetCount operator.name.toList)
    match operator, ← operand with
    | .eq, .literal (.bool true) | .ne, .literal (.bool false) => return test
    | .eq, .literal (.bool false) | .ne, .literal (.bool true) => reject (.operator "not")
    | operator, right => fail (.testCompared test operator right)

/-- The condition that starts with a test or with an operand. -/
def termCondition (operand : Reading Operand) : Term → Reading Filter
  | .test filter => testComparison text operand filter
  | .operand left => do
    let operator ← comparison text
    let right ← operand
    rejectArithmetic text
    return .comparison operator left right

/-- A filter in parentheses, behind the opening one. -/
def groupWith (group : Reading Filter) : Reading Filter := do
  enter
  let filter ← group
  expect text ')'
  leave
  return filter

/-- A condition, given the readers of operands, of arguments and of a filter in parentheses. -/
def conditionWith (operand : Reading Operand) (arguments : Reading (List Operand))
    (group : Reading Filter)
    : Reading Filter := do
  skipBlanks text
  if (← peek text) = some '(' then
    advance text 1
    groupWith text group
  else
    termCondition text operand (← term text operand arguments)

/-- The rest of a chain after its first part: each keyword adds a part on the right. -/
def chainAfter (keyword : List Char) (join : Filter → Filter → Filter) (part : Reading Filter)
    : Nat → Filter → Reading Filter
  | 0, _ => fault .loop
  | steps + 1, left => do
    if ← takeKeyword text keyword then
      countJoin
      let right ← part
      chainAfter keyword join part steps (join left right)
    else
      return left

/-- One part or more with a keyword between them, folded to the left. -/
def chain (keyword : List Char) (join : Filter → Filter → Filter) (part : Reading Filter)
    : Reading Filter := do
  let first ← part
  chainAfter text keyword join part (stepsFor text) first

/-- Conditions joined by `and`. -/
def conjunction (condition : Reading Filter) : Reading Filter :=
  chain text ['a', 'n', 'd'] .and condition

/-- Conjunctions joined by `or`. -/
def disjunction (condition : Reading Filter) : Reading Filter :=
  chain text ['o', 'r'] .or (conjunction text condition)

/-- A condition, with at most some readers of conditions and operands inside one another. -/
def condition : Nat → Reading Filter
  | 0 => fault .recursion
  | levels + 1 =>
    conditionWith text (operand text (levels + 1)) (arguments text (levels + 1))
      (disjunction text (condition levels))

/-- The levels of the recursion: one for each parenthesis that may be open, and one outside. -/
def levels : Nat :=
  Scan.maxNesting + 1

/-- A whole filter text. -/
def filter : Reading Filter := do
  skipBlanks text
  if ← isAtEnd text then fail .emptyFilter
  let filter ← disjunction text (condition text levels)
  skipBlanks text
  if ← isAtEnd text then return filter
  else
    let rest ← remaining text
    fail (.unexpected (String.ofList rest) (← get).position)

end Text

/-- What the reader gives for a text, from its start on, and the cursor behind it. -/
def outcome (text : List Char) : Except Stop (Filter × Cursor) :=
  (filter text).run ⟨0, 0, 0⟩

end Reading

end RecordQuery
