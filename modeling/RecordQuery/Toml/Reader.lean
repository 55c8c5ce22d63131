import RecordQuery.Toml.Quoting
import RecordQuery.Toml.Scalar

/-! Reading TOML text. Arrays and inline tables may be nested to 79 levels, and a key may have 79
names. Each loop takes a character from the text in every step, so it is given the length of the
text as its number of steps.
-/

namespace RecordQuery.Toml

/-- How deep arrays and inline tables may be nested. -/
def maxNesting : Nat := 79

/-- How many names a key may have. -/
def maxNames : Nat := 79

/-- The text after its leading white space, line breaks and comments. -/
def skipLines (inComment : Bool) : List Char → List Char
  | [] => []
  | '\r' :: '\n' :: rest => skipLines false rest
  | c :: rest =>
    if c = '\n' then skipLines false rest
    else if inComment then
      if isText c then skipLines true rest else c :: rest
    else if isSpace c then skipLines false rest
    else if c = '#' then skipLines true rest
    else c :: rest

/-- What follows the rest of a line that holds at most a comment. -/
def lineEnd? (text : List Char) : Option (List Char) :=
  let rest :=
    match skipSpace text with
    | '#' :: comment => comment.dropWhile isText
    | rest => rest
  if rest.isEmpty then some [] else lineBreak? rest

/-! ### Keys -/

/-- A character of a name that is not quoted. -/
def isBare (c : Char) : Bool :=
  Text.isDigit c || ('a' ≤ c && c ≤ 'z') || ('A' ≤ c && c ≤ 'Z') || c == '_' || c == '-'

/-- A name, quoted or bare, and what follows it. -/
def name? (steps : Nat) (text : List Char) : Option (String × List Char) :=
  match Quoting.readLine? steps text with
  | some found => some found
  | none =>
    let name := text.takeWhile isBare
    if name.isEmpty then none else some (String.ofList name, text.drop name.length)

/-- Names with dots between them, and what follows them. -/
def names? (size : Nat) : Nat → List Char → Option (List String × List Char)
  | 0, _ => none
  | steps + 1, text => do
    let (name, rest) ← name? size (skipSpace text)
    match skipSpace rest with
    | '.' :: rest => do
      let (others, rest) ← names? size steps rest
      some (name :: others, rest)
    | rest => some ([name], rest)

/-- A key, and what follows it. -/
def key? (size : Nat) (text : List Char) : Option (Key × List Char) := do
  let (names, rest) ← names? size size text
  let name ← names.getLast?
  if names.length ≤ maxNames then some (⟨names.dropLast, name⟩, rest) else none

/-! ### Values -/

/-- An entry: a key, an equals sign and a value, and what follows it. -/
def keyValue? (value : List Char → Option (Value × List Char)) (size : Nat) (text : List Char)
    : Option ((Key × Value) × List Char) := do
  let (key, rest) ← key? size text
  let rest ← after? ['='] rest
  let (value, rest) ← value (skipSpace rest)
  some ((key, value), rest)

/-- The items of an array up to its closing bracket, and what follows it. -/
def items? (value : List Char → Option (Value × List Char))
    : Nat → List Char → Option (List Value × List Char)
  | 0, _ => none
  | steps + 1, text =>
    match skipLines false text with
    | ']' :: rest => some ([], rest)
    | start => do
      let (first, rest) ← value start
      match skipLines false rest with
      | ',' :: rest => do
        let (others, rest) ← items? value steps rest
        some (first :: others, rest)
      | ']' :: rest => some ([first], rest)
      | _ => none

/-- The entries of an inline table up to its closing brace, and what follows it. -/
def entries? (value : List Char → Option (Value × List Char)) (size : Nat)
    : Nat → List Char → Option (List (Key × Value) × List Char)
  | 0, _ => none
  | steps + 1, text => do
    let (first, rest) ← keyValue? value size text
    match skipSpace rest with
    | ',' :: rest => do
      let (others, rest) ← entries? value size steps rest
      some (first :: others, rest)
    | '\x7d' :: rest => some ([first], rest)
    | _ => none

/-- An inline table after its opening brace, and what follows it. -/
def inline? (value : List Char → Option (Value × List Char)) (size : Nat) (text : List Char)
    : Option (Value × List Char) :=
  match skipSpace text with
  | '\x7d' :: rest => some (.table .inline [], rest)
  | start => do
    let (entries, rest) ← entries? value size size start
    let table ← inlineTable? entries
    some (table, rest)

/-- A value that is not made of others, and what follows it. -/
def simple? (size : Nat) (text : List Char) : Option (Value × List Char) :=
  match Quoting.open? text with
  | some _ => (Quoting.read? size text).map (fun (s, rest) => (.string s, rest))
  | none => scalar? text

/-- A value with at most some levels of nesting, and what follows it. -/
def value? (size : Nat) : Nat → List Char → Option (Value × List Char)
  | 0, text => simple? size text
  | nesting + 1, '[' :: rest =>
    (items? (value? size nesting) size rest).map (fun (items, after) => (.array items, after))
  | nesting + 1, '\x7b' :: rest => inline? (value? size nesting) size rest
  | _ + 1, text => simple? size text

/-! ### Documents -/

/-- A header between brackets, and what follows its line. -/
def header? (size : Nat) (close : List Char) (text : List Char) : Option (Key × List Char) := do
  let (key, rest) ← key? size text
  let rest ← after? close rest
  let rest ← lineEnd? rest
  some (key, rest)

/-- A statement, and what follows its line. -/
def statement? (size : Nat) : List Char → Option (Statement × List Char)
  | '[' :: '[' :: rest => (header? size [']', ']'] rest).map (fun (key, rest) => (.item key, rest))
  | '[' :: rest => (header? size [']'] rest).map (fun (key, rest) => (.table key, rest))
  | text => do
    let ((key, value), rest) ← keyValue? (value? size maxNesting) size text
    let rest ← lineEnd? rest
    some (.entry key value, rest)

/-- The statements of a text, line by line. -/
def statements? (size : Nat) : Nat → List Char → Option (List Statement)
  | 0, text => if text.isEmpty then some [] else none
  | steps + 1, text =>
    if text.isEmpty then some []
    else
      match lineEnd? text with
      | some rest => statements? size steps rest
      | none => do
        let (statement, rest) ← statement? size (skipSpace text)
        let others ← statements? size steps rest
        some (statement :: others)

/-- The mark that may stand at the start of a text to tell its encoding. -/
def byteOrderMark : Char := Char.ofNat 0xFEFF

/-- The table that a text holds. -/
def read? (text : String) : Option (List Entry) :=
  let chars := text.toList
  let chars := if chars.head? = some byteOrderMark then chars.tail else chars
  (statements? chars.length chars.length chars).bind tableOf?

end RecordQuery.Toml
