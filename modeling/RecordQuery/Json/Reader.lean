import RecordQuery.Json.Basic
import RecordQuery.Number.Scaling

/-! Reading JSON text. Arrays and objects may be nested to a given number of levels; a field that
comes again keeps its first place and takes its last value; an integer that needs more than 64 bits
is read as a double, and so is minus zero. A double is computed from 64 bits of its digits and a power
of ten, which is not always the nearest one. Each loop takes a character from the text in every step,
so it is given a bound on the length of the text as its number of steps.
-/

namespace RecordQuery.Json

/-- How deep values may be nested where nothing else is said. -/
def defaultNesting : Nat := 127

/-- The white space of JSON text. -/
def isSpace (c : Char) : Bool :=
  c == ' ' || c == '\t' || c == '\n' || c == '\r'

/-- The text after its leading white space. -/
def skipSpace (text : List Char) : List Char :=
  text.dropWhile isSpace

/-- The UTF-16 unit of four hexadecimal digits, and what follows them. -/
def hexUnit? : List Char → Option (Nat × List Char)
  | a :: b :: c :: d :: rest => do
    let a ← Text.hexDigit? a
    let b ← Text.hexDigit? b
    let c ← Text.hexDigit? c
    let d ← Text.hexDigit? d
    some (((a * 16 + b) * 16 + c) * 16 + d, rest)
  | _ => none

/-- The character after `\u`: one unit, or a surrogate pair in two escapes. -/
def escapedChar? (text : List Char) : Option (Char × List Char) := do
  let (unit, rest) ← hexUnit? text
  if unit < 0xD800 ∨ 0xDFFF < unit then some (Char.ofNat unit, rest)
  else if 0xDC00 ≤ unit then none
  else
    match rest with
    | '\\' :: 'u' :: more => do
      let (low, rest) ← hexUnit? more
      if 0xDC00 ≤ low ∧ low ≤ 0xDFFF then
        some (Char.ofNat (0x10000 + (unit - 0xD800) * 0x400 + (low - 0xDC00)), rest)
      else none
    | _ => none

/-- The character that a backslash and a letter stand for. -/
def shortEscape? : Char → Option Char
  | '"' => some '"'
  | '\\' => some '\\'
  | '/' => some '/'
  | 'b' => some '\x08'
  | 'f' => some '\x0c'
  | 'n' => some '\n'
  | 'r' => some '\r'
  | 't' => some '\t'
  | _ => none

/-- The rest of a string after its opening quote, and what follows its closing one. -/
def stringBody? : Nat → List Char → Option (List Char × List Char)
  | 0, _ => none
  | _ + 1, [] => none
  | steps + 1, c :: rest =>
    if c = '"' then some ([], rest)
    else if c = '\\' then
      match rest with
      | [] => none
      | letter :: more => do
        let (decoded, more) ←
          if letter = 'u' then escapedChar? more else (shortEscape? letter).map (·, more)
        let (body, after) ← stringBody? steps more
        some (decoded :: body, after)
    else if c.toNat < 0x20 then none
    else do
      let (body, after) ← stringBody? steps rest
      some (c :: body, after)

/-- The string at the start of a text, and what follows it. -/
def quoted? (steps : Nat) : List Char → Option (String × List Char)
  | '"' :: rest => (stringBody? steps rest).map (fun (body, after) => (String.ofList body, after))
  | _ => none

/-- The digits before the point have no zero in front, and every mark has digits after it. -/
def isComplete (n : Numeral) : Bool :=
  !n.whole.isEmpty && (n.whole.length == 1 || n.whole.head? != some '0')
    && n.fraction != some [] && (n.exponent.all (fun e => !e.digits.isEmpty))

/-- The number that a numeral stands for. -/
def numberOf? (n : Numeral) : Option Number :=
  let double := n.toScaled?.map Number.double
  if !n.isIntegral || (n.negative && n.toInt == 0) then double
  else
    match Number.ofInt? n.toInt with
    | some whole => some whole
    | none => double

/-- The number at the start of a text, and what follows it. -/
def number? (text : List Char) : Option (Number × List Char) :=
  let (numeral, rest) := Numeral.scan text
  if isComplete numeral then (numberOf? numeral).map (·, rest) else none

/-- The rest of an array after its first item. -/
def itemsAfter? (item : List Char → Option (Json × List Char))
    : Nat → List Char → Option (List Json × List Char)
  | 0, _ => none
  | steps + 1, text =>
    match skipSpace text with
    | ']' :: rest => some ([], rest)
    | ',' :: rest => do
      let (first, rest) ← item (skipSpace rest)
      let (others, rest) ← itemsAfter? item steps rest
      some (first :: others, rest)
    | _ => none

/-- An array after its opening bracket. -/
def items? (item : List Char → Option (Json × List Char)) (steps : Nat) (text : List Char)
    : Option (List Json × List Char) :=
  match skipSpace text with
  | ']' :: rest => some ([], rest)
  | start => do
    let (first, rest) ← item start
    let (others, rest) ← itemsAfter? item steps rest
    some (first :: others, rest)

/-- A field: a name, a colon and a value. -/
def field (item : List Char → Option (Json × List Char)) (steps : Nat) (text : List Char)
    : Option (Field × List Char) := do
  let (name, rest) ← quoted? steps (skipSpace text)
  match skipSpace rest with
  | ':' :: rest => do
    let (value, rest) ← item (skipSpace rest)
    some ((name, value), rest)
  | _ => none

/-- The rest of an object after its first field. -/
def entriesAfter? (item : List Char → Option (Json × List Char))
    : Nat → List Char → Option (List Field × List Char)
  | 0, _ => none
  | steps + 1, text =>
    match skipSpace text with
    | '\x7d' :: rest => some ([], rest)
    | ',' :: rest => do
      let (first, rest) ← field item steps rest
      let (others, rest) ← entriesAfter? item steps rest
      some (first :: others, rest)
    | _ => none

/-- An object after its opening brace. -/
def entries? (item : List Char → Option (Json × List Char)) (steps : Nat) (text : List Char)
    : Option (List Field × List Char) :=
  match skipSpace text with
  | '\x7d' :: rest => some ([], rest)
  | start => do
    let (first, rest) ← field item steps start
    let (others, rest) ← entriesAfter? item steps rest
    some (first :: others, rest)

/-- A value that is neither an array nor an object, and what follows it. -/
def scalar? (steps : Nat) : List Char → Option (Json × List Char)
  | 'n' :: 'u' :: 'l' :: 'l' :: rest => some (.null, rest)
  | 't' :: 'r' :: 'u' :: 'e' :: rest => some (.bool true, rest)
  | 'f' :: 'a' :: 'l' :: 's' :: 'e' :: rest => some (.bool false, rest)
  | '"' :: rest => (quoted? steps ('"' :: rest)).map (fun (s, after) => (.string s, after))
  | text => (number? text).map (fun (n, after) => (.number n, after))

/-- The value at the start of a text, and what follows it; arrays and objects may be nested to the
given number of levels.
-/
def value? (steps : Nat) : Nat → List Char → Option (Json × List Char)
  | 0, text => scalar? steps text
  | nesting + 1, '[' :: rest =>
    (items? (value? steps nesting) steps rest).map (fun (items, after) => (.array items, after))
  | nesting + 1, '\x7b' :: rest =>
    (entries? (value? steps nesting) steps rest).map
      (fun (entries, after) => (.object (fieldsOf entries), after))
  | _ + 1, text => scalar? steps text

/-- The value that a text holds, with white space around it and nothing else. -/
def readNested? (nesting : Nat) (text : List Char) : Option Json := do
  let (value, rest) ← value? text.length nesting (skipSpace text)
  if (skipSpace rest).isEmpty then some value else none

/-- The value that a text holds. -/
def read? (text : String) : Option Json :=
  readNested? defaultNesting text.toList

end RecordQuery.Json
