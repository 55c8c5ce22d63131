import RecordQuery.CommandLine.Basic

/-! The flags of a command line. Some are known at every level, before the command and behind it;
others belong to the whole program or to one command.
-/

namespace RecordQuery.CommandLine

/-- The flags. -/
inductive Flag where
  | config
  | logLevel
  | logFormat
  | dumpConfig
  | set
  | params
  | idProp
  | output
  | force
  | help
  | version
  deriving DecidableEq

namespace Flag

/-- The name of a flag behind two hyphens. -/
def name : Flag → String
  | .config => "config"
  | .logLevel => "log-level"
  | .logFormat => "log-format"
  | .dumpConfig => "dump-config"
  | .set => "set"
  | .params => "params"
  | .idProp => "id-prop"
  | .output => "output"
  | .force => "force"
  | .help => "help"
  | .version => "version"

/-- The letter of a flag behind one hyphen. -/
def letter? : Flag → Option Char
  | .config => some 'c'
  | .logLevel => some 'l'
  | .params => some 'p'
  | .output => some 'o'
  | .force => some 'f'
  | .help => some 'h'
  | .version => some 'V'
  | .logFormat | .dumpConfig | .set | .idProp => none

/-- The flag is followed by a value. -/
def takesValue : Flag → Bool
  | .config | .logLevel | .logFormat | .set | .params | .idProp | .output => true
  | .dumpConfig | .force | .help | .version => false

/-- The flag may come several times. -/
def isRepeatable (flag : Flag) : Bool :=
  flag = .set

/-- The value is the name of a file, which is not empty. -/
def namesFile : Flag → Bool
  | .config | .output => true
  | _ => false

/-- The flags that are known at every level. -/
def everywhere : List Flag := [.config, .logLevel, .logFormat, .dumpConfig, .set, .help]

end Flag

/-- The levels of a command line: before the command, and behind each of them. -/
inductive Level where
  | top
  | query
  | schema
  | init
  deriving DecidableEq

namespace Level

/-- The flags that are known at a level. -/
def flags : Level → List Flag
  | .top => .version :: Flag.everywhere
  | .query => .params :: .idProp :: Flag.everywhere
  | .schema => Flag.everywhere
  | .init => .output :: .force :: Flag.everywhere

/-- A file is named at this level. -/
def takesFile : Level → Bool
  | .query | .schema => true
  | .top | .init => false

/-- The flag with a name that is known at a level. -/
def flagNamed? (level : Level) (name : String) : Option Flag :=
  level.flags.find? (fun flag => flag.name = name)

/-- The flag with a letter that is known at a level. -/
def flagLettered? (level : Level) (letter : Char) : Option Flag :=
  level.flags.find? (fun flag => flag.letter? = some letter)

/-- The level behind a command word. -/
def behind? (word : String) : Option Level :=
  if word = "query" then some .query
  else if word = "schema" then some .schema
  else if word = "init" then some .init
  else none

end Level

/-- Why a command line asks for nothing. -/
inductive UsageError where
  | noCommand
  | unknownCommand (word : String)
  | noFile
  | unknownArgument (text : String)
  | noValue (flag : Flag)
  | emptyValue
  | needlessValue (flag : Flag)
  | repeated (flag : Flag)
  deriving DecidableEq

def UsageError.message : UsageError → String
  | .noCommand => "a command is needed"
  | .unknownCommand word => "there is no command '" ++ word ++ "'"
  | .noFile => "the name of a file is needed"
  | .unknownArgument text => "unexpected argument '" ++ text ++ "'"
  | .noValue flag => "--" ++ flag.name ++ " needs a value"
  | .emptyValue => "the name of a file is empty"
  | .needlessValue flag => "--" ++ flag.name ++ " takes no value"
  | .repeated flag => "--" ++ flag.name ++ " is given twice"

/-- What ends the reading of a command line before there is a command to run. -/
inductive Stop where
  | usage (error : UsageError)
  | help
  | version
  deriving DecidableEq

end RecordQuery.CommandLine
