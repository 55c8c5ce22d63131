import RecordQuery.Text.Numeral

/-! Quoted text. A text may be quoted with escapes or as it stands, and on one line or over several.
What may stand inside is any text but control characters, for which there are escapes; over several
lines it may also have line breaks, the first of which is dropped if it comes at once.
-/

namespace RecordQuery.Toml

/-- White space within a line. -/
def isSpace (c : Char) : Bool :=
  c == ' ' || c == '\t'

/-- The text after its leading white space. -/
def skipSpace (text : List Char) : List Char :=
  text.dropWhile isSpace

/-- A character that may stand in a line as it is: a tab, or any that is no control character. -/
def isText (c : Char) : Bool :=
  c == '\t' || (0x20 ≤ c.toNat && c.toNat != 0x7F)

/-- What follows a line break, which may have a carriage return in front. -/
def lineBreak? : List Char → Option (List Char)
  | '\n' :: rest => some rest
  | '\r' :: '\n' :: rest => some rest
  | _ => none

/-- How a text is quoted. -/
inductive Quoting where
  | basic
  | literal
  | longBasic
  | longLiteral
  deriving DecidableEq

namespace Quoting

/-- The quotation mark. -/
def mark : Quoting → Char
  | .basic | .longBasic => '"'
  | .literal | .longLiteral => '\''

/-- A backslash begins an escape. -/
def hasEscapes : Quoting → Bool
  | .basic | .longBasic => true
  | .literal | .longLiteral => false

/-- The text may have line breaks. -/
def isLong : Quoting → Bool
  | .longBasic | .longLiteral => true
  | .basic | .literal => false

/-- What stands before and after a quoted text. -/
def delimiter (quoting : Quoting) : List Char :=
  List.replicate (if quoting.isLong then 3 else 1) quoting.mark

/-! ### Reading -/

/-- The character with a code point of some hexadecimal digits, and what follows them. -/
def codePoint? (count : Nat) (text : List Char) : Option (Char × List Char) := do
  let digits ← (text.take count).mapM Text.hexDigit?
  let code := digits.foldl (fun total digit => 16 * total + digit) 0
  if digits.length = count ∧ code.isValidChar then some (Char.ofNat code, text.drop count) else none

/-- The character that a backslash and a letter stand for. -/
def shortEscape? : Char → Option Char
  | 'b' => some '\x08'
  | 't' => some '\t'
  | 'n' => some '\n'
  | 'f' => some '\x0c'
  | 'r' => some '\r'
  | '"' => some '"'
  | '\\' => some '\\'
  | _ => none

/-- The character that an escape stands for after its backslash, and what follows it. -/
def escape? : List Char → Option (Char × List Char)
  | [] => none
  | letter :: rest =>
    if letter = 'u' then codePoint? 4 rest
    else if letter = 'U' then codePoint? 8 rest
    else (shortEscape? letter).map (·, rest)

/-- The text after its leading white space and line breaks. -/
def skipBreaks : List Char → List Char
  | [] => []
  | '\r' :: '\n' :: rest => skipBreaks rest
  | c :: rest => if c = '\n' || isSpace c then skipBreaks rest else c :: rest

/-- What follows a backslash at the end of a line, with the white space that starts the next lines
left out.
-/
def continuation? (text : List Char) : Option (List Char) :=
  (lineBreak? (skipSpace text)).map skipBreaks

/-- The rest of a text on one line after its opening mark, and what follows its closing mark. Every
step takes a character, so the length of the text is steps enough.
-/
def lineBody? (quoting : Quoting) : Nat → List Char → Option (List Char × List Char)
  | 0, _ => none
  | _ + 1, [] => none
  | steps + 1, c :: rest =>
    if c = quoting.mark then some ([], rest)
    else if quoting.hasEscapes && c = '\\' then do
      let (decoded, rest) ← escape? rest
      let (body, after) ← lineBody? quoting steps rest
      some (decoded :: body, after)
    else if isText c then do
      let (body, after) ← lineBody? quoting steps rest
      some (c :: body, after)
    else none

/-- The rest of a text over several lines, and what follows its closing marks. Of a run of three
marks or more the last three close the text; up to two marks belong to it.
-/
def longBody? (quoting : Quoting) : Nat → List Char → Option (List Char × List Char)
  | 0, _ => none
  | _ + 1, [] => none
  | steps + 1, c :: rest =>
    let marks := ((c :: rest).takeWhile (· == quoting.mark)).length
    if 3 ≤ marks then
      let kept := min (marks - 3) 2
      some (List.replicate kept quoting.mark, (c :: rest).drop (kept + 3))
    else if quoting.hasEscapes && c = '\\' then
      match continuation? rest with
      | some rest => longBody? quoting steps rest
      | none => do
        let (decoded, rest) ← escape? rest
        let (body, after) ← longBody? quoting steps rest
        some (decoded :: body, after)
    else
      match lineBreak? (c :: rest) with
      | some rest => do
        let (body, after) ← longBody? quoting steps rest
        some ('\n' :: body, after)
      | none =>
        if isText c then do
          let (body, after) ← longBody? quoting steps rest
          some (c :: body, after)
        else none

/-- The rest of a text after its opening delimiter, and what follows its closing one. -/
def body? (quoting : Quoting) (steps : Nat) (text : List Char) : Option (List Char × List Char) :=
  if quoting.isLong then longBody? quoting steps ((lineBreak? text).getD text)
  else lineBody? quoting steps text

/-- The quoting that the start of a text opens, and what follows its delimiter. -/
def open? : List Char → Option (Quoting × List Char)
  | '"' :: '"' :: '"' :: rest => some (.longBasic, rest)
  | '"' :: rest => some (.basic, rest)
  | '\'' :: '\'' :: '\'' :: rest => some (.longLiteral, rest)
  | '\'' :: rest => some (.literal, rest)
  | _ => none

/-- The quoted text at the start of a text, and what follows it. -/
def read? (steps : Nat) (text : List Char) : Option (String × List Char) := do
  let (quoting, rest) ← open? text
  let (body, after) ← quoting.body? steps rest
  some (String.ofList body, after)

/-- The text quoted on one line at the start of a text, and what follows it. -/
def readLine? (steps : Nat) : List Char → Option (String × List Char)
  | '"' :: rest => (lineBody? .basic steps rest).map (fun (body, after) => (.ofList body, after))
  | '\'' :: rest => (lineBody? .literal steps rest).map (fun (body, after) => (.ofList body, after))
  | _ => none

/-! ### Writing -/

/-- A character between quotation marks with escapes. -/
def escapeChar (c : Char) : List Char :=
  if c = '\x08' then ['\\', 'b']
  else if c = '\t' then ['\\', 't']
  else if c = '\n' then ['\\', 'n']
  else if c = '\x0c' then ['\\', 'f']
  else if c = '\r' then ['\\', 'r']
  else if c = '"' then ['\\', '"']
  else if c = '\\' then ['\\', '\\']
  else if c.toNat < 0x20 ∨ c.toNat = 0x7F then
    ['\\', 'u', '0', '0', (Nat.digitChar (c.toNat / 16)).toUpper,
      (Nat.digitChar (c.toNat % 16)).toUpper]
  else [c]

/-- A text over several lines with escapes, after some quotation marks: line breaks stand as they
are, and so do quotation marks unless two stand before.
-/
def longBasicBody : Nat → List Char → List Char
  | _, [] => []
  | marks, c :: rest =>
    if c = '"' then
      if 2 ≤ marks then '\\' :: '"' :: longBasicBody 0 rest
      else '"' :: longBasicBody (marks + 1) rest
    else if c = '\n' then '\n' :: longBasicBody 0 rest
    else escapeChar c ++ longBasicBody 0 rest

/-- What stands between the delimiters of a text. -/
def body (quoting : Quoting) (text : List Char) : List Char :=
  match quoting with
  | .basic => text.flatMap escapeChar
  | .longBasic => longBasicBody 0 text
  | .literal | .longLiteral => text

/-- The text with its delimiters; over several lines it starts on a line of its own. -/
def write (quoting : Quoting) (text : List Char) : List Char :=
  quoting.delimiter ++ (if quoting.isLong && text.contains '\n' then ['\n'] else [])
    ++ quoting.body text ++ quoting.delimiter

/-- The most of a character that stand in a row, after a run of it. -/
def longestRunAfter (mark : Char) : Nat → List Char → Nat
  | run, [] => run
  | run, c :: rest =>
    if c = mark then longestRunAfter mark (run + 1) rest else max run (longestRunAfter mark 0 rest)

/-- The most of a character that stand in a row. -/
def longestRun (mark : Char) (text : List Char) : Nat :=
  longestRunAfter mark 0 text

/-- A control character, which only an escape can stand for; tabs and line breaks need none. -/
def needsEscape (c : Char) : Bool :=
  !isText c && c != '\n'

/-- A quoting in which a text reads well: without escapes where one has no need of them, on one line
where it has one line, and with escapes where nothing else serves.
-/
def choose (text : List Char) : Quoting :=
  let isOneLine := !text.contains '\n'
  let isPlain := !text.any needsEscape
  let hasBackslash := text.contains '\\'
  if isPlain && !hasBackslash && isOneLine && longestRun '"' text == 0 then .basic
  else if isPlain && isOneLine && longestRun '\'' text == 0 then .literal
  else if isPlain && !hasBackslash && longestRun '"' text ≤ 2 then .longBasic
  else if isPlain && longestRun '\'' text ≤ 2 then .longLiteral
  else if isOneLine then .basic
  else .longBasic

end Quoting

/-- The quoted form of a text. -/
def quote (s : String) : List Char :=
  (Quoting.choose s.toList).write s.toList

end RecordQuery.Toml
