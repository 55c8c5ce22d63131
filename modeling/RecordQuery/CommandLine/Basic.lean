/-! What is asked for on a command line: a command, and what is said of the configuration beside it.
-/

namespace RecordQuery.CommandLine

def programName : String := "jsonrest"

def version : String := "0.3.0"

/-- The file from which the configuration is read where no other is named, if it is there. -/
def defaultConfigFile : String := "jsonrest.toml"

/-- The commands: run a query on the records of a file, infer their schema, and write a
configuration file.
-/
inductive Command where
  | query (file : String) (parameters : String) (idProperty : Option String)
  | schema (file : String)
  | init (output : String) (force : Bool)
  deriving DecidableEq

/-- What is said of the configuration: its file, settings that win over it, and whether it is shown
in place of running the command.
-/
structure Overrides where
  configFile : Option String
  logLevel : Option String
  logFormat : Option String
  assignments : List String
  dump : Bool
  deriving DecidableEq

/-- A command with what is said of the configuration. -/
structure Invocation where
  command : Command
  overrides : Overrides
  deriving DecidableEq

/-- The settings that the environment gives. -/
structure Environment where
  configFile : Option String
  logLevel : Option String
  logFormat : Option String
  deriving DecidableEq

end RecordQuery.CommandLine
