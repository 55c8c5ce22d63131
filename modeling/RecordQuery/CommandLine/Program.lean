import RecordQuery.CommandLine.Reader
import RecordQuery.Config.Exchange
import RecordQuery.Files.Basic
import RecordQuery.Json.Printer
import RecordQuery.Service

/-! The program: what a command line does. The records of a file are stored as an endpoint in an
empty store, on which the command is run as an operation of the service; its reply decides the
outcome, and without one the program stops. Files are reached only through the operations that the
program is given, and the texts of ids are drawn from those that it is given.
-/

namespace RecordQuery.CommandLine

/-- What is written to the error output. -/
inductive Report where
  | nothing
  | line (text : String)
  | reply (reply : Reply)
  deriving DecidableEq

/-- The text of a report. -/
def Report.text : Report → String
  | .nothing => ""
  | .line text => text ++ "\n"
  | .reply told => toString told.status ++ " " ++ told.body.renderPretty ++ "\n"

/-- What a run comes to. -/
structure Outcome where
  exitCode : UInt8
  output : String
  report : Report
  deriving DecidableEq

namespace Outcome

/-- A run that goes well. -/
def success (output : String) : Outcome := ⟨0, output, .nothing⟩

/-- A run that fails. -/
def failure (report : Report) : Outcome := ⟨1, "", report⟩

/-- A run on a command line that asks for nothing. -/
def misuse (error : UsageError) : Outcome :=
  ⟨2, "", .line ("error: " ++ error.message ++ "\n\nTry '" ++ programName ++ " --help'.")⟩

/-- A run that ends with a reply. -/
def ofReply (reply : Reply) : Outcome :=
  if reply.isSuccess then success (reply.body.renderPretty ++ "\n") else failure (.reply reply)

/-- A run that stops while it sorts. -/
def stopped : Outcome :=
  ⟨101, "",
    .line "user-provided comparison function does not correctly implement a total order"⟩

/-- A run that ends with a reply, or that stops without one. -/
def ofReply? : Option Reply → Outcome
  | some reply => .ofReply reply
  | none => .stopped

end Outcome

/-- What the program tells of its use. -/
def helpText : String :=
  "Usage: " ++ programName ++ " [OPTIONS] <COMMAND>\n\nCommands:\n"
    ++ "  query FILE [-p QS] [--id-prop NAME]  Run a query on the JSON array of a file\n"
    ++ "  schema FILE                          Infer a JSON Schema for the JSON array of a file\n"
    ++ "  init [-o FILE] [-f]                  Write a configuration file\n\nOptions:\n"
    ++ "  -c, --config FILE       Configuration file\n"
    ++ "  -l, --log-level LEVEL   Log level\n"
    ++ "      --log-format FORMAT Log format: pretty, json\n"
    ++ "      --dump-config       Show the configuration in effect\n"
    ++ "      --set KEY=VALUE     Change a setting\n"
    ++ "  -h, --help              Show this text\n"
    ++ "  -V, --version           Show the version\n"

def versionText : String := programName ++ " " ++ version

/-- The outcome where there is no command to run. -/
def Stop.outcome : Stop → Outcome
  | .usage error => .misuse error
  | .help => .success helpText
  | .version => .success (versionText ++ "\n")

/-! ### The configuration in effect -/

/-- Why there is no configuration in effect. -/
inductive SetupError where
  | config (error : ConfigError)
  | notAnAssignment (text : String)
  deriving DecidableEq

def SetupError.message : SetupError → String
  | .config error => (Failure.ofConfigError error).message
  | .notAnAssignment text =>
    "Invalid config override '" ++ text ++ "': expected key=value format"

/-- The key and the value of an assignment, which are split at its first equals sign. -/
def splitAssignment? (text : String) : Option (String × String) :=
  let key := text.toList.takeWhile (· != '=')
  match text.toList.drop key.length with
  | [] => none
  | _ :: value => some (String.ofList key, String.ofList value)

/-- The configuration after an assignment. -/
def assign (config : Config) (text : String) : Except SetupError Config :=
  match splitAssignment? text with
  | some (key, value) => (config.setKey key value).mapError .config
  | none => .error (.notAnAssignment text)

/-- The configuration with a setting changed, if there is a text for it. -/
def setGiven (config : Config) (setting : Setting) (text : Option String)
    : Except SetupError Config :=
  match text with
  | some text => (config.set setting text).mapError .config
  | none => .ok config

/-- The configuration after what is said of it. -/
def Overrides.apply (overrides : Overrides) (config : Config) : Except SetupError Config := do
  let config ← setGiven config .logLevel overrides.logLevel
  let config ← setGiven config .logFormat overrides.logFormat
  overrides.assignments.foldlM assign config

/-- The configuration in effect: the loaded one after what is said of it, if it can be used. -/
def prepare (loaded : Except ConfigError Config) (overrides : Overrides)
    : Except SetupError Config := do
  let config ← overrides.apply (← loaded.mapError .config)
  config.check.mapError .config
  return config

/-- The configuration that a file holds. -/
def readConfig [Monad m] (files : Files m) (name : String) : m (Except ConfigError Config) := do
  match ← files.read name with
  | .ok text => return Config.parse text
  | .error error => return .error (.brokenFile name error)

/-- The configuration of the file that is named, or else of the usual one if it is there. -/
def loadConfig [Monad m] (files : Files m) (named : Option String)
    : m (Except ConfigError Config) := do
  match named with
  | some name =>
    if ← files.contains name then readConfig files name else return .error (.noFile name)
  | none =>
    if ← files.contains defaultConfigFile then readConfig files defaultConfigFile
    else return .ok Config.standard

/-! ### Commands -/

/-- The value that the text of a file holds. -/
def valueOf (content : Except FileError String) : Except Failure Json :=
  match content with
  | .error error => .error ⟨.file, error.message⟩
  | .ok text =>
    match Json.read? text with
    | some value => .ok value
    | none => .error ⟨.json, "the text is not a JSON value"⟩

/-- The reply to an operation on the records of a file, which are stored for it, if there is one. -/
def replyOn? (config : Config) (ids : Nat → String) (content : Except FileError String)
    (idProperty : Option String) (operation : Endpoint → HaltingAction Json)
    : Option Reply :=
  let action : HaltingAction Json := do
    let raw ← ((valueOf content).mapError .told : Except (Halt Failure) Json)
    operation (← (Service.create config.query idProperty raw).halting)
  Reply.ofHalting? (action.run.run (Store.empty config.firstPageSize ids)).1

/-- The reply to a query on the records of a file. -/
def queryReply? (config : Config) (ids : Nat → String) (content : Except FileError String)
    (parameters : String) (idProperty : Option String)
    : Option Reply :=
  replyOn? config ids content idProperty (fun endpoint => do
    return (← Service.query config.query endpoint.id parameters).toJson)

/-- The reply that tells the schema of the records of a file. -/
def schemaReply? (config : Config) (ids : Nat → String) (content : Except FileError String)
    : Option Reply :=
  replyOn? config ids content none (fun endpoint => (Service.schema endpoint.id).halting)

/-- The text of a configuration file with the standard configuration. -/
def standardConfigText : Except ConfigError String := do
  return "# " ++ programName ++ " configuration\n\n" ++ (← Config.standard.render)

/-- What is told after a configuration file is written. -/
def createdText (name : String) : String :=
  "Created configuration file: " ++ name ++ "\n\nTo use it:\n  " ++ programName ++ " --config "
    ++ name ++ " query data.json\n"

/-- Write a configuration file. -/
def initialise [Monad m] (files : Files m) (output : String) (force : Bool) : m Outcome := do
  if !force && (← files.contains output) then
    return .failure (.line
      ("Configuration file '" ++ output ++ "' already exists. Use --force to overwrite it."))
  match standardConfigText with
  | .error error => return .failure (.line (Failure.ofConfigError error).message)
  | .ok text =>
    match ← files.write output text with
    | .ok () => return .success (createdText output)
    | .error error =>
      return .failure (.line ("Failed to write " ++ output ++ ": " ++ error.message))

/-- The outcome of a failure before the command. -/
def setupFailure (message : String) : Outcome :=
  .failure (.line ("Error: " ++ message))

/-- The outcome that shows a configuration. -/
def dump (config : Config) : Outcome :=
  match config.render with
  | .ok text => .success (text ++ "\n")
  | .error error => setupFailure (Failure.ofConfigError error).message

/-- Run a command that needs a configuration, or show the one in effect. -/
def withConfig [Monad m] (files : Files m) (overrides : Overrides) (command : Config → m Outcome)
    : m Outcome := do
  match prepare (← loadConfig files overrides.configFile) overrides with
  | .error error => return setupFailure error.message
  | .ok config => if overrides.dump then return dump config else command config

/-- Run what a command line asks for. -/
def Invocation.run [Monad m] (files : Files m) (ids : Nat → String) (invocation : Invocation)
    : m Outcome :=
  match invocation.command with
  | .init output force => initialise files output force
  | .query file parameters idProperty =>
    withConfig files invocation.overrides (fun config => do
      return .ofReply? (queryReply? config ids (← files.read file) parameters idProperty))
  | .schema file =>
    withConfig files invocation.overrides (fun config => do
      return .ofReply? (schemaReply? config ids (← files.read file)))

/-- Run the program. -/
def run [Monad m] (files : Files m) (ids : Nat → String) (environment : Environment)
    (arguments : List String) : m Outcome :=
  match parse environment arguments with
  | .error stop => return stop.outcome
  | .ok invocation => invocation.run files ids

end RecordQuery.CommandLine
