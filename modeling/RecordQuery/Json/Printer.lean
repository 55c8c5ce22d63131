import RecordQuery.Json.Basic

/-! The text of JSON values, compact on one line or laid out with two spaces a level. Only the
quote, the backslash and the control characters below U+0020 are escaped.
-/

namespace RecordQuery.Json

/-- The text of a character inside a quoted string. -/
def escapeChar (c : Char) : List Char :=
  if c = '"' then ['\\', '"']
  else if c = '\\' then ['\\', '\\']
  else if c = '\x08' then ['\\', 'b']
  else if c = '\t' then ['\\', 't']
  else if c = '\n' then ['\\', 'n']
  else if c = '\x0c' then ['\\', 'f']
  else if c = '\r' then ['\\', 'r']
  else if c.toNat < 0x20 then
    ['\\', 'u', '0', '0', Nat.digitChar (c.toNat / 16), Nat.digitChar (c.toNat % 16)]
  else [c]

/-- The text of a string, quotes included. -/
def quote (s : String) : List Char :=
  '"' :: s.toList.flatMap escapeChar ++ ['"']

mutual
/-- The text of a value, without spaces. -/
def chars : Json → List Char
  | .null => ['n', 'u', 'l', 'l']
  | .bool true => ['t', 'r', 'u', 'e']
  | .bool false => ['f', 'a', 'l', 's', 'e']
  | .number n => n.text
  | .string s => quote s
  | .array [] => ['[', ']']
  | .array (item :: rest) => '[' :: item.chars ++ itemChars rest ++ [']']
  | .object [] => ['\x7b', '\x7d']
  | .object ((name, value) :: rest) =>
    '\x7b' :: quote name ++ ':' :: value.chars ++ fieldChars rest ++ ['\x7d']

/-- The text of the items after the first, a comma before each. -/
def itemChars : List Json → List Char
  | [] => []
  | item :: rest => ',' :: item.chars ++ itemChars rest

/-- The text of the fields after the first, a comma before each. -/
def fieldChars : List Field → List Char
  | [] => []
  | (name, value) :: rest => ',' :: quote name ++ ':' :: value.chars ++ fieldChars rest
end

/-- The compact text of a value. -/
def render (value : Json) : String :=
  String.ofList value.chars

/-- The start of a new line at a level. -/
def lineBreak (level : Nat) : List Char :=
  '\n' :: List.replicate (2 * level) ' '

mutual
/-- The text of a value, each item and field on a line of its own. -/
def prettyChars (level : Nat) : Json → List Char
  | .array (item :: rest) =>
    '[' :: lineBreak (level + 1) ++ item.prettyChars (level + 1)
      ++ prettyItemChars (level + 1) rest ++ lineBreak level ++ [']']
  | .object ((name, value) :: rest) =>
    '\x7b' :: lineBreak (level + 1) ++ quote name ++ [':', ' '] ++ value.prettyChars (level + 1)
      ++ prettyFieldChars (level + 1) rest ++ lineBreak level ++ ['\x7d']
  | .null => chars .null
  | .bool b => chars (.bool b)
  | .number n => chars (.number n)
  | .string s => chars (.string s)
  | .array [] => chars (.array [])
  | .object [] => chars (.object [])

/-- The items after the first. -/
def prettyItemChars (level : Nat) : List Json → List Char
  | [] => []
  | item :: rest =>
    ',' :: lineBreak level ++ item.prettyChars level ++ prettyItemChars level rest

/-- The fields after the first. -/
def prettyFieldChars (level : Nat) : List Field → List Char
  | [] => []
  | (name, value) :: rest =>
    ',' :: lineBreak level ++ quote name ++ [':', ' '] ++ value.prettyChars level
      ++ prettyFieldChars level rest
end

/-- The text of a value laid out over several lines. -/
def renderPretty (value : Json) : String :=
  String.ofList (value.prettyChars 0)

end RecordQuery.Json
