import RecordQuery.Filter.Scanner

/-! Reading filters. A disjunction joins conjunctions, a conjunction joins conditions, and both are
folded to the left. Parentheses, of groups and of calls alike, may be nested to 64 levels, and a
filter may have 1024 conjunctions and disjunctions. Each reader is given the readers of what stands
inside a parenthesis, so the levels that are left are all that the recursion needs.
-/

namespace RecordQuery.Scan

/-- The levels of parentheses that a filter may have. -/
def maxNesting : Nat := 64

/-- The conjunctions and disjunctions that a filter may have. -/
def maxJoins : Nat := 1024

/-- The operators that are understood but not supported. -/
def unsupportedOperators : List String := ["not", "add", "sub", "mul", "div", "mod"]

/-- The words that make a quoted text directly after them a literal of their type. -/
def literalTypes : List String := ["datetime", "datetimeoffset", "guid", "time"]

/-- The rest of a quoted text after its opening quote, and what follows its closing one. -/
def quotedBody? : List Char → Option (List Char × List Char)
  | [] => none
  | '\'' :: '\'' :: rest => (quotedBody? rest).map (fun (body, after) => ('\'' :: body, after))
  | '\'' :: rest => some ([], rest)
  | c :: rest => (quotedBody? rest).map (fun (body, after) => (c :: body, after))

/-- A quoted text, which starts here. -/
def quoted : Scan String := do
  let start ← get
  match quotedBody? (start.rest.drop 1) with
  | some (body, after) =>
    advance (start.rest.length - after.length)
    return String.ofList body
  | none => fail (.unterminatedString start.position)

/-- The value of a numeral: an integer where it has only digits and fits 64 bits, or else the
nearest double.
-/
def numeralValue? (numeral : Numeral) : Option Number :=
  let double : Option Number := do
    let decimal ← numeral.toDecimal?
    let x ← decimal.toBinary64?
    some (Number.double x)
  if numeral.isIntegral ∧ -(twoPow 63 : Int) ≤ numeral.toInt ∧ numeral.toInt < twoPow 63 then
    Number.ofInt? numeral.toInt
  else double

/-- The letters that may follow a number to give its type. -/
def isTypeSuffix (c : Char) : Bool :=
  c ∈ ['m', 'M', 'd', 'D', 'f', 'F', 'l', 'L']

/-- A number, which starts here. -/
def number : Scan Operand := do
  let start ← get
  let numeral := (Numeral.scan start.rest).1
  if numeral.whole.isEmpty then fail (.expectedDigits start.position)
  advance numeral.text.length
  if (← peek?).any isTypeSuffix then advance 1
  if (← peek?).any Text.isWordChar then fail (.invalidNumberAt start.position)
  match numeralValue? numeral with
  | some value => return .literal (.number value)
  | none => fail (.invalidNumber (String.ofList numeral.text))

/-- The longest start of a text that is words joined by slashes, and whether a word ends it. -/
def pathChars (afterSlash : Bool) : List Char → List Char × Bool
  | [] => ([], !afterSlash)
  | c :: rest =>
    if Text.isWordChar c then
      let (path, complete) := pathChars false rest
      (c :: path, complete)
    else if c = '/' ∧ !afterSlash then
      let (path, complete) := pathChars true rest
      (c :: path, complete)
    else ([], !afterSlash)

/-- A path, which starts here. -/
def path : Scan Operand := do
  let (chars, complete) := pathChars false (← get).rest
  if complete then
    match PropertyPath.parse (String.ofList chars) with
    | .ok path =>
      advance chars.length
      return .property path
    | .error error => fail (.path error)
  else fail (.path (.emptyName (String.ofList chars)))

/-- The value of a word that is a literal by itself. -/
def wordValue? (word : String) : Option Json :=
  if word = "true" then some (.bool true)
  else if word = "false" then some (.bool false)
  else if word = "null" then some .null
  else none

/-- A call of a function, at its opening parenthesis. -/
def call (name : String) (arguments : Scan (List Operand)) : Scan Operand :=
  match StringTest.ofName? name, Function.ofName? name with
  | some test, _ => fail (.testAsValue test)
  | none, none => reject (.function name)
  | none, some function => do
    let operands ← arguments
    match Operand.call? function operands with
    | some operand => return operand
    | none => fail (.argumentCount name function.arity operands.length)

/-- An operand that starts with a word, which starts here. -/
def wordOperand (arguments : Scan (List Operand)) : Scan Operand := do
  let start ← get
  let word := String.ofList start.word
  let afterWord := start.advance start.word.length
  if word ∈ literalTypes ∧ afterWord.peek? = some '\'' then
    set afterWord
    return .literal (.string (← quoted))
  else
    match wordValue? word, afterWord.peek? == some '/' with
    | some value, false =>
      set afterWord
      return .literal value
    | _, _ =>
      if afterWord.skipBlanks.peek? = some '(' then
        set afterWord.skipBlanks
        call word arguments
      else if word ∈ unsupportedOperators then reject (.operator word)
      else if word = "and" ∨ word = "or" ∨ (Comparison.ofName? word).isSome then
        fail (.expectedOperand start.position word)
      else path

/-- An operand, given the reader of the arguments of a call. -/
def operandWith (arguments : Scan (List Operand)) : Scan Operand := do
  skipBlanks
  let scanner ← get
  match scanner.peek? with
  | none => fail .expectedOperandAtEnd
  | some c =>
    if c = '\'' then return .literal (.string (← quoted))
    else if Text.isDigit c ∨ c = '-' then number
    else if Text.isWordChar c then wordOperand arguments
    else fail (.unexpected c.toString scanner.position)

/-- One operand or more with commas between them. Each takes a character, so the length of the text
is steps enough.
-/
def operandList (operand : Scan Operand) : Nat → Scan (List Operand)
  | 0 => return []
  | steps + 1 => do
    let first ← operand
    skipBlanks
    if (← peek?) = some ',' then
      advance 1
      return first :: (← operandList operand steps)
    else
      return [first]

/-- The arguments of a call, given the reader of one. -/
def argumentsWith (operand : Scan Operand) : Scan (List Operand) := do
  expect '('
  skipBlanks
  let scanner ← get
  let operands ←
    if scanner.peek? = some ')' then pure [] else operandList operand (scanner.rest.length + 1)
  expect ')'
  return operands

/-- The arguments of a call where no parenthesis may be opened any more. -/
def noArguments : Scan (List Operand) := do
  expect '('
  fail .nestedTooDeeply

/-- An operand with at most some levels of parentheses. -/
def operand : Nat → Scan Operand
  | 0 => operandWith noArguments
  | nesting + 1 => operandWith (argumentsWith (operand nesting))

/-- The arguments of a call with at most some levels of parentheses. -/
def arguments : Nat → Scan (List Operand)
  | 0 => noArguments
  | nesting + 1 => argumentsWith (operand nesting)

/-- Fail at an operator that is not supported. -/
def rejectArithmetic : Scan Unit := do
  let word := String.ofList (← peekWord)
  if word ∈ unsupportedOperators then reject (.operator word)

/-- A comparison operator. -/
def comparison : Scan Comparison := do
  rejectArithmetic
  let scanner ← get
  match Comparison.ofName? (String.ofList scanner.word) with
  | some operator =>
    advance scanner.word.length
    return operator
  | none =>
    if !scanner.word.isEmpty then
      fail (.expectedOperator scanner.position (String.ofList scanner.word))
    else if scanner.rest.isEmpty then fail .expectedOperatorAtEnd
    else fail (.expectedOperatorAt scanner.position)

/-- A string test with its arguments, none where a word of that name is not followed by them. -/
def stringTest? (arguments : Scan (List Operand)) : Scan (Option Filter) := do
  let start ← get
  let afterWord := (start.advance start.word.length).skipBlanks
  match StringTest.ofName? (String.ofList start.word), afterWord.peek? == some '(' with
  | some test, true =>
    set afterWord
    match ← arguments with
    | [first, second] => return some (.stringTest test first second)
    | operands => fail (.argumentCount test.name 2 operands.length)
  | _, _ => return none

/-- The truth value with which a test may be compared after it; a test compared with its opposite
would be a negation.
-/
def testComparison (operand : Scan Operand) (test : Filter) : Scan Filter := do
  let word ← peekWord
  match Comparison.ofName? (String.ofList word) with
  | none => return test
  | some operator =>
    advance word.length
    match operator, ← operand with
    | .eq, .literal (.bool true) | .ne, .literal (.bool false) => return test
    | .eq, .literal (.bool false) | .ne, .literal (.bool true) => reject (.operator "not")
    | operator, right => fail (.testCompared test operator right)

/-- A condition, given the readers of operands, of arguments and of a filter in parentheses. -/
def conditionWith (operand : Scan Operand) (arguments : Scan (List Operand)) (group : Scan Filter)
    : Scan Filter := do
  skipBlanks
  if (← peek?) = some '(' then
    advance 1
    let filter ← group
    expect ')'
    return filter
  else
    match ← stringTest? arguments with
    | some test => testComparison operand test
    | none =>
      let left ← operand
      let operator ← comparison
      let right ← operand
      rejectArithmetic
      return .comparison operator left right

/-- The rest of a chain after its first part: each keyword adds a part on the right. As every part
counts a join, the joins that are left are steps enough.
-/
def chainAfter (keyword : List Char) (join : Filter → Filter → Filter) (part : Scan Filter)
    : Nat → Filter → Scan Filter
  | 0, left => do
    if ← takeKeyword keyword then fail .tooManyClauses else return left
  | steps + 1, left => do
    if ← takeKeyword keyword then
      takeJoin
      let right ← part
      chainAfter keyword join part steps (join left right)
    else
      return left

/-- One part or more with a keyword between them, folded to the left. -/
def chain (keyword : List Char) (join : Filter → Filter → Filter) (part : Scan Filter)
    : Scan Filter := do
  let first ← part
  chainAfter keyword join part (← get).joins first

/-- A disjunction of conjunctions of conditions. -/
def disjunction (condition : Scan Filter) : Scan Filter :=
  chain ['o', 'r'] .or (chain ['a', 'n', 'd'] .and condition)

/-- A condition with at most some levels of parentheses. -/
def condition : Nat → Scan Filter
  | 0 => conditionWith (operand 0) (arguments 0) (fail .nestedTooDeeply)
  | nesting + 1 =>
    conditionWith (operand (nesting + 1)) (arguments (nesting + 1))
      (disjunction (condition nesting))

/-- A whole filter text. -/
def filter : Scan Filter := do
  skipBlanks
  if (← get).rest.isEmpty then fail .emptyFilter
  let filter ← disjunction (condition maxNesting)
  skipBlanks
  let scanner ← get
  if scanner.rest.isEmpty then return filter
  else fail (.unexpected (String.ofList scanner.rest) scanner.position)

end RecordQuery.Scan

namespace RecordQuery

/-- The filter that a text spells. -/
def Filter.parse (text : String) : Except QueryError Filter :=
  (Scan.filter.run ⟨text.toList, 0, Scan.maxJoins⟩).map Prod.fst

end RecordQuery
