import RecordQuery.CommandLine.Flag

/-! Reading command lines. The arguments are read from left to right, and the first thing that is
wrong, or the first request for help or the version, ends the reading. A value given behind the
command wins over one given before it, and both win over the environment.
-/

namespace RecordQuery.CommandLine

/-- What has been given at a level: flags with their values, in order, and a file. -/
structure Given where
  flags : List (Flag × String)
  file : Option String
  deriving DecidableEq

namespace Given

def nothing : Given := ⟨[], none⟩

/-- A flag has been given. -/
def has (given : Given) (flag : Flag) : Bool :=
  given.flags.any (fun entry => entry.1 = flag)

/-- The values of a flag, in order. -/
def values (given : Given) (flag : Flag) : List String :=
  (given.flags.filter (fun entry => entry.1 = flag)).map Prod.snd

/-- The value of a flag that is given once. -/
def value? (given : Given) (flag : Flag) : Option String :=
  (given.values flag).head?

/-- What has been given after one more flag. -/
def add (given : Given) (flag : Flag) (value : String) : Except Stop Given :=
  match flag with
  | .help => .error .help
  | .version => .error .version
  | flag =>
    if given.has flag && !flag.isRepeatable then .error (.usage (.repeated flag))
    else if flag.namesFile && value.isEmpty then .error (.usage .emptyValue)
    else .ok { given with flags := given.flags ++ [(flag, value)] }

/-- What has been given after an argument that belongs to no flag. -/
def addOperand (given : Given) (level : Level) (text : String) : Except Stop Given :=
  if !level.takesFile || given.file.isSome then .error (.usage (.unknownArgument text))
  else if text.isEmpty then .error (.usage .emptyValue)
  else .ok { given with file := some text }

end Given

/-- How the next argument is read: as anything, as the value of a flag, or as no flag. -/
inductive Mode where
  | anything
  | value (flag : Flag)
  | operand
  deriving DecidableEq

namespace Level

/-- A flag by its name, with a value behind an equals sign or without. -/
def readName (level : Level) (given : Given) (text : List Char) : Except Stop (Given × Mode) :=
  let name := text.takeWhile (· != '=')
  match level.flagNamed? (String.ofList name), text.drop name.length with
  | none, _ => .error (.usage (.unknownArgument (String.ofList ('-' :: '-' :: text))))
  | some flag, [] =>
    if flag.takesValue then .ok (given, .value flag)
    else do return (← given.add flag "", .anything)
  | some flag, _ :: value =>
    if flag.takesValue then do return (← given.add flag (String.ofList value), .anything)
    else .error (.usage (.needlessValue flag))

/-- Flags by their letters; what follows the letter of a flag with a value is the value. -/
def readLetters (level : Level) (given : Given) : List Char → Except Stop (Given × Mode)
  | [] => .ok (given, .anything)
  | letter :: rest =>
    match level.flagLettered? letter with
    | none => .error (.usage (.unknownArgument ("-" ++ letter.toString)))
    | some flag =>
      if flag.takesValue then
        match rest with
        | [] => .ok (given, .value flag)
        | '=' :: value => do return (← given.add flag (String.ofList value), .anything)
        | value => do return (← given.add flag (String.ofList value), .anything)
      else do
        let given ← given.add flag ""
        level.readLetters given rest

/-- An argument that may be a flag. -/
def readAny (level : Level) (given : Given) (text : String) : Except Stop (Given × Mode) :=
  match text.toList with
  | ['-', '-'] => .ok (given, .operand)
  | '-' :: '-' :: name => level.readName given name
  | '-' :: letter :: letters => level.readLetters given (letter :: letters)
  | _ => do return (← given.addOperand level text, .anything)

/-- An argument that starts as a flag does. -/
def looksLikeFlag (text : String) : Bool :=
  match text.toList with
  | '-' :: _ :: _ => true
  | _ => false

/-- The words that end the arguments before the command. -/
def isCommandWord (word : String) : Bool :=
  word = "help" || (behind? word).isSome

/-- What is given at a level, and the arguments from the command word on. -/
def readFrom (level : Level) : Mode → Given → List String → Except Stop (Given × List String)
  | .value flag, _, [] => .error (.usage (.noValue flag))
  | _, given, [] => .ok (given, [])
  | .value flag, given, text :: rest =>
    if looksLikeFlag text then .error (.usage (.noValue flag))
    else do level.readFrom .anything (← given.add flag text) rest
  | .operand, given, text :: rest => do
    level.readFrom .operand (← given.addOperand level text) rest
  | .anything, given, text :: rest =>
    if level = .top ∧ isCommandWord text then .ok (given, text :: rest)
    else do
      let (given, mode) ← level.readAny given text
      level.readFrom mode given rest

/-- What is given at a level from its first argument on. -/
def read (level : Level) (arguments : List String) : Except Stop (Given × List String) :=
  level.readFrom .anything .nothing arguments

end Level

/-- The command at a level with what is given there. -/
def commandOf (level : Level) (given : Given) : Except Stop Command :=
  let withFile (command : String → Command) : Except Stop Command :=
    match given.file with
    | some file => .ok (command file)
    | none => .error (.usage .noFile)
  match level with
  | .top => .error (.usage .noCommand)
  | .query =>
    withFile (fun file =>
      .query file ((given.value? .params).getD "") (given.value? .idProp))
  | .schema => withFile .schema
  | .init => .ok (.init ((given.value? .output).getD defaultConfigFile) (given.has .force))

/-- The value of a flag behind the command, before it, or in the environment. -/
def chosen (before behind : Given) (environment : Option String) (flag : Flag) : Option String :=
  (behind.value? flag).or ((before.value? flag).or environment)

/-- What is said of the configuration before and behind a command. The assignments behind the
command stand in place of those before it.
-/
def overridesOf (environment : Environment) (before behind : Given) : Overrides :=
  let assignments := behind.values .set
  {
    configFile := chosen before behind environment.configFile .config
    logLevel := chosen before behind environment.logLevel .logLevel
    logFormat := chosen before behind environment.logFormat .logFormat
    assignments := if assignments.isEmpty then before.values .set else assignments
    dump := before.has .dumpConfig || behind.has .dumpConfig
  }

/-- The environment names an empty file at a level where no other is named. -/
def hasEmptyFile (environment : Environment) (before behind : Given) : Bool :=
  environment.configFile = some "" && !(before.has .config && behind.has .config)

/-- The end of a request for help, which may name a command. -/
def helpStop : List String → Stop
  | [] => .help
  | [word] => if Level.isCommandWord word then .help else .usage (.unknownCommand word)
  | word :: _ :: _ => .usage (.unknownCommand word)

/-- What a command line asks for. -/
def parse (environment : Environment) (arguments : List String) : Except Stop Invocation := do
  let (before, rest) ← Level.top.read arguments
  match rest with
  | [] => throw (.usage .noCommand)
  | word :: rest =>
    match Level.behind? word with
    | none => throw (helpStop rest)
    | some level =>
      let (behind, _) ← level.read rest
      if hasEmptyFile environment before behind then throw (.usage .emptyValue)
      return ⟨← commandOf level behind, overridesOf environment before behind⟩

end RecordQuery.CommandLine
