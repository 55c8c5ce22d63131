import RecordQuery.Toml.Quoting

/-! Writing TOML text: tables of texts and of whole numbers, each under its header and with a blank
line between them. Names are written bare.
-/

namespace RecordQuery.Toml

/-- What is written for a name. -/
inductive Field where
  | text (value : String)
  | count (value : Nat)
  deriving DecidableEq

/-- The field can be written: a whole number has to fit a signed word. -/
def Field.isWritable : Field → Bool
  | .text _ => true
  | .count n => n < twoPow 63

/-- The text of a field's value. -/
def Field.chars : Field → List Char
  | .text s => quote s
  | .count n => Text.digitsOf n

/-- A table with its header. -/
structure Section where
  name : String
  fields : List (String × Field)
  deriving DecidableEq

/-- A line that gives a field. -/
def fieldLine (field : String × Field) : List Char :=
  field.1.toList ++ [' ', '=', ' '] ++ field.2.chars ++ ['\n']

/-- The lines of a table. -/
def Section.chars (table : Section) : List Char :=
  '[' :: table.name.toList ++ [']', '\n'] ++ table.fields.flatMap fieldLine

/-- The text of some tables, none if a number is too great. -/
def write? (tables : List Section) : Option String :=
  if tables.all (fun table => table.fields.all (fun field => field.2.isWritable)) then
    some (String.ofList (['\n'].intercalate (tables.map Section.chars)))
  else none

end RecordQuery.Toml
