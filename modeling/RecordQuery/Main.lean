import RecordQuery.CommandLine.Program

/-! The program on the files and in the environment of the computer, with random ids. -/

namespace RecordQuery.CommandLine

/-- What an error of the computer says of a file. -/
def fileErrorOf (isFolder : Bool) (error : IO.Error) : FileError :=
  if isFolder then .isFolder
  else
    match error with
    | .noFileOrDirectory .. => .notFound
    | .inappropriateType .. => .notFolder
    | error => .other (toString error)

/-- An action on a file, with its error if it fails. -/
def attempt (name : String) (action : IO α) : IO (Except FileError α) := do
  try
    return .ok (← action)
  catch error =>
    return .error (fileErrorOf (← (System.mkFilePath [name]).isDir) error)

/-- The files of the computer. -/
def computerFiles : Files IO where
  contains name := (System.mkFilePath [name]).pathExists
  read name := do
    match ← attempt name (IO.FS.readBinFile name) with
    | .error error => return .error error
    | .ok bytes =>
      match String.fromUTF8? bytes with
      | some text => return .ok text
      | none => return .error .notText
  write name text := attempt name (IO.FS.writeFile name text)

/-- The settings that the environment of the computer gives. -/
def computerEnvironment : IO Environment := do
  return ⟨← IO.getEnv "JSONREST_CONFIG", ← IO.getEnv "JSONREST_LOG_LEVEL",
    ← IO.getEnv "JSONREST_LOG_FORMAT"⟩

/-- A text of 32 hexadecimal digits that stand for some octets. -/
def textOfOctets (octets : ByteArray) : String :=
  String.ofList (octets.toList.flatMap (fun octet =>
    [Nat.digitChar (octet.toNat / 16), Nat.digitChar (octet.toNat % 16)]))

/-- The octets of a random identifier: all but the bits that tell its version and its variant are
random.
-/
def markRandom (octets : ByteArray) : ByteArray :=
  let version := (octets.set! 6 ((octets.get! 6 &&& 0x0F) ||| 0x40))
  version.set! 8 ((version.get! 8 &&& 0x3F) ||| 0x80)

/-- A text that is drawn for an id. No command needs more than one. -/
def computerIds : IO (Nat → String) := do
  let text := textOfOctets (markRandom (← IO.getRandomBytes 16))
  return fun _ => text

end RecordQuery.CommandLine

open RecordQuery.CommandLine in
/-- Run the program with the arguments of the command line. -/
def main (arguments : List String) : IO UInt32 := do
  let outcome ← run computerFiles (← computerIds) (← computerEnvironment) arguments
  (← IO.getStdout).putStr outcome.output
  (← IO.getStderr).putStr outcome.report.text
  return outcome.exitCode.toUInt32
