import RecordQuery.Files.Basic
import RecordQuery.Query.Settings
import RecordQuery.Store
import RecordQuery.Text.LetterCase

/-! The configuration. Each setting has a key, under which its text can be given; a configuration
that is used has no size of zero and an id property that is a path.
-/

namespace RecordQuery

/-- The layouts of log lines. -/
inductive LogFormat where
  | pretty
  | json
  deriving DecidableEq

namespace LogFormat

/-- The name of a layout. -/
def name : LogFormat → String
  | .pretty => "pretty"
  | .json => "json"

def all : List LogFormat := [.pretty, .json]

def ofName? (name : String) : Option LogFormat :=
  all.find? (fun format => format.name = name)

end LogFormat

/-- What is logged, and how. -/
structure LogSettings where
  level : String
  format : LogFormat
  deriving DecidableEq

/-- A configuration. -/
structure Config where
  logging : LogSettings
  query : QuerySettings
  firstPageSize : UInt64
  deriving DecidableEq

/-- The settings. -/
inductive Setting where
  | logLevel
  | logFormat
  | defaultTop
  | defaultPageSize
  | idProperty
  | firstPageSize
  deriving DecidableEq

namespace Setting

/-- The key of a setting. -/
def key : Setting → String
  | .logLevel => "logging.level"
  | .logFormat => "logging.format"
  | .defaultTop => "query.default_top"
  | .defaultPageSize => "query.default_page_size"
  | .idProperty => "query.id_prop_name"
  | .firstPageSize => "store.first_page_size"

def all : List Setting :=
  [.logLevel, .logFormat, .defaultTop, .defaultPageSize, .idProperty, .firstPageSize]

def ofKey? (key : String) : Option Setting :=
  all.find? (fun setting => setting.key = key)

end Setting

/-- Why a configuration cannot be had, changed or used. -/
inductive ConfigError where
  | unknownKey (key : String)
  | invalidValue (setting : Setting) (text : String)
  | zero (setting : Setting)
  | invalidIdProperty (error : PathError)
  | unreadable (detail : String)
  | unwritable (detail : String)
  | noFile (name : String)
  | brokenFile (name : String) (error : FileError)
  deriving DecidableEq

def ConfigError.message : ConfigError → String
  | .unknownKey key => "Unknown config key: " ++ key
  | .invalidValue .logFormat text =>
    "Invalid logging.format value: " ++ text ++ ". Expected: pretty, json"
  | .invalidValue setting text => "Invalid value for " ++ setting.key ++ ": " ++ text
  | .zero setting => setting.key ++ " cannot be 0"
  | .invalidIdProperty error =>
    Setting.idProperty.key ++ " is not a valid path: " ++ (Failure.ofPathError error).message
  | .unreadable detail => "Failed to parse config: " ++ detail
  | .unwritable detail => "Failed to serialize config: " ++ detail
  | .noFile name => "Configuration file not found: " ++ name
  | .brokenFile name error =>
    "Failed to read config file " ++ Files.quotedName name ++ ": " ++ error.message

/-- A configuration error as a failure. -/
def Failure.ofConfigError (error : ConfigError) : Failure :=
  ⟨.config, error.message⟩

namespace Config

/-- The configuration where nothing else is set. -/
def standard : Config :=
  ⟨⟨"info", .pretty⟩, QuerySettings.standard, Store.defaultFirstPageSize⟩

/-- The size that a text gives for a setting. -/
def sizeOf (setting : Setting) (text : String) : Except ConfigError UInt64 :=
  match Text.unsigned64? text.toList with
  | some size => .ok size
  | none => .error (.invalidValue setting text)

/-- The log layout that a text names, in letters of either case. -/
def formatOf (text : String) : Except ConfigError LogFormat :=
  match LogFormat.ofName? (String.ofList (Text.toLower text.toList)) with
  | some format => .ok format
  | none => .error (.invalidValue .logFormat text)

/-- The configuration with one setting changed. -/
def set (config : Config) (setting : Setting) (text : String) : Except ConfigError Config :=
  match setting with
  | .logLevel => .ok { config with logging := { config.logging with level := text } }
  | .logFormat => do
    let format ← formatOf text
    return { config with logging := { config.logging with format := format } }
  | .defaultTop => do
    let size ← sizeOf setting text
    return { config with query := { config.query with defaultTop := size } }
  | .defaultPageSize => do
    let size ← sizeOf setting text
    return { config with query := { config.query with defaultPageSize := size } }
  | .idProperty => .ok { config with query := { config.query with idProperty := text } }
  | .firstPageSize => do
    let size ← sizeOf setting text
    return { config with firstPageSize := size }

/-- The configuration with the setting of a key changed. -/
def setKey (config : Config) (key text : String) : Except ConfigError Config :=
  match Setting.ofKey? key with
  | some setting => config.set setting text
  | none => .error (.unknownKey key)

/-- Fail for a size of zero. -/
def checkSize (setting : Setting) (size : UInt64) : Except ConfigError Unit :=
  if size = 0 then .error (.zero setting) else .ok ()

/-- Fail for a configuration that cannot be used. -/
def check (config : Config) : Except ConfigError Unit := do
  checkSize .defaultTop config.query.defaultTop
  checkSize .defaultPageSize config.query.defaultPageSize
  match PropertyPath.parse config.query.idProperty with
  | .ok _ => pure ()
  | .error error => throw (.invalidIdProperty error)
  checkSize .firstPageSize config.firstPageSize

end Config

end RecordQuery
