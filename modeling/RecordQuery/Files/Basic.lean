import RecordQuery.Text.Visible

/-! Text files by name, behind an interface: a program that reads and writes files is given the
operations, so that it can be run on a real folder and reasoned about on one held in memory.
-/

namespace RecordQuery

/-- Why a file cannot be read or written. -/
inductive FileError where
  | notFound
  | isFolder
  | notFolder
  | notText
  | other (detail : String)
  deriving DecidableEq

def FileError.message : FileError → String
  | .notFound => "No such file or directory (os error 2)"
  | .isFolder => "Is a directory (os error 21)"
  | .notFolder => "Not a directory (os error 20)"
  | .notText => "stream did not contain valid UTF-8"
  | .other detail => detail

/-- The operations on files: whether something is there under a name, the text of a file, and
putting a text into a file, which is made if it is not there.
-/
structure Files (m : Type → Type) where
  contains : String → m Bool
  read : String → m (Except FileError String)
  write : String → String → m (Except FileError Unit)

namespace Files

/-- A character of a quoted file name. -/
def escapeChar (c : Char) : List Char :=
  if c = '"' ∨ c = '\\' then ['\\', c]
  else if c = '\n' then ['\\', 'n']
  else if c = '\r' then ['\\', 'r']
  else if c = '\t' then ['\\', 't']
  else if c = '\x00' then ['\\', '0']
  else if Text.isInvisible c then
    ['\\', 'u', '\x7b'] ++ Nat.toDigits 16 c.toNat ++ ['\x7d']
  else [c]

/-- A file name between quotation marks. -/
def quotedName (name : String) : String :=
  String.ofList ('"' :: name.toList.flatMap escapeChar ++ ['"'])

end Files

end RecordQuery
