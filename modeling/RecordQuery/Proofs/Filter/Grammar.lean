import RecordQuery.Filter.Parser
import RecordQuery.Proofs.Number.Numerals

/-! The grammar of filter texts. A phrase is a relation between what is spelled, a text that starts
with its spelling, and the rest behind it, so that what may follow directly can be said. White
space may stand before every mark, word and literal; a word is whole where no identifier character
follows. Each parenthesis, of a group or of a call, takes one level of nesting.
-/

namespace RecordQuery

/-- How many conjunctions and disjunctions a filter has. -/
def Filter.joins : Filter → Nat
  | .comparison .. | .stringTest .. => 0
  | .and left right | .or left right => left.joins + right.joins + 1

namespace Grammar

/-- What a phrase spells, the text it starts, and the rest of that text behind it. -/
abbrev Phrase (α : Type) := α → List Char → List Char → Prop

/-- A text behind its leading white space. -/
def afterBlanks (text : List Char) : List Char :=
  text.dropWhile Text.isBlank

/-- No identifier character follows. -/
def EndsWord (rest : List Char) : Prop :=
  ∀ c ∈ rest.head?, Text.isWordChar c = false

/-- A punctuation mark. -/
def Mark (mark : Char) (text rest : List Char) : Prop :=
  afterBlanks text = mark :: rest

/-- A whole word. -/
def Word (word : String) (text rest : List Char) : Prop :=
  afterBlanks text = word.toList ++ rest ∧ EndsWord rest

/-- A numeral without point and exponent whose integer fits a signed 64-bit word. -/
def FitsSigned64 (numeral : Numeral) : Prop :=
  numeral.isIntegral ∧ -(twoPow 63 : Int) ≤ numeral.toInt ∧ numeral.toInt < twoPow 63

/-- The number that a numeral stands for: its integer if that fits, or else a finite double. -/
inductive Denotes (numeral : Numeral) : Number → Prop where
  | int (fits : FitsSigned64 numeral) (inRange : Number.InRange numeral.toInt)
      : Denotes numeral (.int numeral.toInt inRange)
  | double {decimal : Decimal} {x : Binary64} (large : ¬ FitsSigned64 numeral)
      (read : numeral.toDecimal? = some decimal) (finite : decimal.toBinary64? = some x)
      : Denotes numeral (.double x)

/-- The letters that may follow a numeral, one at most. -/
def typeSuffixes : List (List Char) :=
  [[], ['m'], ['M'], ['d'], ['D'], ['f'], ['F'], ['l'], ['L']]

/-- The words that a quoted text may directly follow. -/
def literalTypes : List String := ["datetime", "datetimeoffset", "guid", "time"]

/-- The words that are literals, with their values. -/
def constants : List (String × Json) :=
  [("true", .bool true), ("false", .bool false), ("null", .null)]

/-- The words that no path starts with. -/
def reservedWords : List String :=
  ["and", "or", "eq", "ne", "lt", "le", "gt", "ge", "not", "add", "sub", "mul", "div", "mod"]

/-- A path of identifiers. The first one does not start with a digit and is not reserved, and the
path is not just the name of a constant.
-/
structure IsOperandPath (path : PropertyPath) : Prop where
  identifiers : ∀ name ∈ path.names, ∀ c ∈ name.toList, Text.isWordChar c
  digit : ∀ c ∈ path.text.toList.head?, Text.isDigit c = false
  reserved : ∀ name ∈ path.names.head?, name ∉ reservedWords
  constant : path.text ∉ constants.map Prod.fst

/-- The conditions on an operand path, as they are computed. -/
def isOperandPath (path : PropertyPath) : Bool :=
  (path.names.all fun name => name.toList.all Text.isWordChar)
    && (path.text.toList.head?.all fun c => !Text.isDigit c)
    && (path.names.head?.all fun name => !reservedWords.contains name)
    && !(constants.map Prod.fst).contains path.text

theorem isOperandPath_iff {path : PropertyPath} : isOperandPath path ↔ IsOperandPath path := by
  simp only [isOperandPath, Bool.and_eq_true, List.all_eq_true, Option.all_eq_true,
    Bool.not_eq_true', List.contains_eq_mem, decide_eq_false_iff_not]
  exact ⟨fun ⟨⟨⟨identifiers, digit⟩, reserved⟩, constant⟩ =>
      ⟨identifiers, digit, reserved, constant⟩,
    fun h => ⟨⟨⟨h.identifiers, h.digit⟩, h.reserved⟩, h.constant⟩⟩

instance (path : PropertyPath) : Decidable (IsOperandPath path) :=
  decidable_of_iff _ isOperandPath_iff

/-- A word that is a literal: a slash behind it would make it the start of a path. -/
def Constant (word : String) (text rest : List Char) : Prop :=
  Word word text rest ∧ rest.head? ≠ some '/'

/-- Operands, given the phrase of the arguments of a call. -/
inductive OperandWith (arguments : Phrase (List Operand)) : Phrase Operand where
  | string {text rest : List Char} (s : String)
      (spelling : afterBlanks text = Text.quoted s ++ rest)
      : OperandWith arguments (.literal (.string s)) text rest
  | typed {text rest : List Char} (type s : String) (known : type ∈ literalTypes)
      (spelling : afterBlanks text = type.toList ++ (Text.quoted s ++ rest))
      : OperandWith arguments (.literal (.string s)) text rest
  | number {text rest suffix : List Char} {value : Number} (numeral : Numeral)
      (written : numeral.IsWritten) (nonempty : numeral.whole ≠ [])
      (denotes : Denotes numeral value) (typed : suffix ∈ typeSuffixes)
      (spelling : afterBlanks text = numeral.text ++ (suffix ++ rest)) (whole : EndsWord rest)
      : OperandWith arguments (.literal (.number value)) text rest
  | constant {text rest : List Char} {word : String} {value : Json}
      (known : (word, value) ∈ constants) (spelling : Constant word text rest)
      : OperandWith arguments (.literal value) text rest
  | call {text inner rest : List Char} {operands : List Operand} {call : Operand}
      (function : Function) (name : Word function.name text inner)
      (list : arguments operands inner rest) (arity : Operand.call? function operands = some call)
      : OperandWith arguments call text rest
  | path {text rest : List Char} (path : PropertyPath) (isPath : IsOperandPath path)
      (spelling : Word path.text text rest)
      : OperandWith arguments (.property path) text rest

/-- One operand or more with commas between them. -/
inductive Listed (operand : Phrase Operand) : Phrase (List Operand) where
  | one {first : Operand} {text rest : List Char} (spelling : operand first text rest)
      : Listed operand [first] text rest
  | cons {first : Operand} {others : List Operand} {text middle inner rest : List Char}
      (spelling : operand first text middle) (comma : Mark ',' middle inner)
      (list : Listed operand others inner rest)
      : Listed operand (first :: others) text rest

/-- Operands in parentheses, none or some. -/
inductive ArgumentsWith (operand : Phrase Operand) : Phrase (List Operand) where
  | empty {text inner rest : List Char} (opening : Mark '(' text inner)
      (closing : Mark ')' inner rest)
      : ArgumentsWith operand [] text rest
  | parentheses {operands : List Operand} {text inner last rest : List Char}
      (opening : Mark '(' text inner) (list : Listed operand operands inner last)
      (closing : Mark ')' last rest)
      : ArgumentsWith operand operands text rest

/-- The arguments of a call, with parentheses nested to at most some levels, their own included. -/
def SpellsArguments : Nat → Phrase (List Operand)
  | 0 => fun _ _ _ => False
  | nesting + 1 => ArgumentsWith (OperandWith (SpellsArguments nesting))

/-- Operands with parentheses nested to at most some levels. -/
def SpellsOperand (nesting : Nat) : Phrase Operand :=
  OperandWith (SpellsArguments nesting)

/-- What may be written behind a test without changing it. -/
def agreements : List (Comparison × String) := [(.eq, "true"), (.ne, "false")]

/-- Conditions, given the phrases of operands, of arguments and of filters in parentheses. -/
inductive ConditionWith (operand : Phrase Operand) (arguments : Phrase (List Operand))
    (group : Phrase Filter) : Phrase Filter where
  | group {filter : Filter} {text inner last rest : List Char} (opening : Mark '(' text inner)
      (filling : group filter inner last) (closing : Mark ')' last rest)
      : ConditionWith operand arguments group filter text rest
  | test {first second : Operand} {text inner rest : List Char} (test : StringTest)
      (name : Word test.name text inner) (pair : arguments [first, second] inner rest)
      : ConditionWith operand arguments group (.stringTest test first second) text rest
  | agreement {first second : Operand} {text inner middle truth rest : List Char}
      {operator : Comparison} {word : String} (test : StringTest)
      (name : Word test.name text inner) (pair : arguments [first, second] inner middle)
      (agrees : (operator, word) ∈ agreements) (symbol : Word operator.name middle truth)
      (value : Constant word truth rest)
      : ConditionWith operand arguments group (.stringTest test first second) text rest
  | comparison {left right : Operand} {text middle inner rest : List Char}
      (operator : Comparison) (first : operand left text middle)
      (symbol : Word operator.name middle inner) (second : operand right inner rest)
      : ConditionWith operand arguments group (.comparison operator left right) text rest

/-- Parts with a keyword between them, joined from the left. -/
inductive Chain (keyword : String) (join : Filter → Filter → Filter) (part : Phrase Filter)
    : Phrase Filter where
  | one {filter : Filter} {text rest : List Char} (spelling : part filter text rest)
      : Chain keyword join part filter text rest
  | more {left right : Filter} {text middle inner rest : List Char}
      (before : Chain keyword join part left text middle) (joined : Word keyword middle inner)
      (spelling : part right inner rest)
      : Chain keyword join part (join left right) text rest

/-- Conditions joined by `and`. -/
def ConjunctionOf (condition : Phrase Filter) : Phrase Filter :=
  Chain "and" .and condition

/-- Conjunctions joined by `or`. -/
def DisjunctionOf (condition : Phrase Filter) : Phrase Filter :=
  Chain "or" .or (ConjunctionOf condition)

/-- What stands in the parentheses of a group, which are one of the levels that are left. -/
def SpellsGroup : Nat → Phrase Filter
  | 0 => fun _ _ _ => False
  | nesting + 1 =>
    DisjunctionOf
      (ConditionWith (SpellsOperand nesting) (SpellsArguments nesting) (SpellsGroup nesting))

/-- Conditions with parentheses nested to at most some levels. -/
def SpellsCondition (nesting : Nat) : Phrase Filter :=
  ConditionWith (SpellsOperand nesting) (SpellsArguments nesting) (SpellsGroup nesting)

/-- A whole text spells a filter with parentheses nested to at most some levels. -/
def Spells (nesting : Nat) (filter : Filter) (text : List Char) : Prop :=
  ∃ rest, DisjunctionOf (SpellsCondition nesting) filter text rest ∧ afterBlanks rest = []

end Grammar

end RecordQuery
