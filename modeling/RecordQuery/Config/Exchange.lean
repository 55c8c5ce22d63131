import RecordQuery.Config.Basic
import RecordQuery.Toml.Printer
import RecordQuery.Toml.Reader

/-! Configurations as text and as JSON values: a table each for logging, queries and the store.
Whatever is left out is as in the standard configuration.
-/

namespace RecordQuery

namespace LogSettings

def ofJson? (conventions : Json.Conventions) (value : Json) : Option LogSettings := do
  let standard := Config.standard.logging
  match ← value.record? conventions ["level", "format"] with
  | [level, format] =>
    some ⟨← Json.orDefault standard.level Json.text? level,
      ← Json.orDefault standard.format (Json.alternative? conventions LogFormat.ofName?) format⟩
  | _ => none

def toJson (settings : LogSettings) : Json :=
  .object [("level", .string settings.level), ("format", .string settings.format.name)]

end LogSettings

namespace QuerySettings

def ofJson? (conventions : Json.Conventions) (value : Json) : Option QuerySettings := do
  let standard := QuerySettings.standard
  match ← value.record? conventions ["default_top", "default_page_size", "id_prop_name"] with
  | [top, pageSize, idProperty] =>
    some ⟨← Json.orDefault standard.defaultTop Json.count? top,
      ← Json.orDefault standard.defaultPageSize Json.count? pageSize,
      ← Json.orDefault standard.idProperty Json.text? idProperty⟩
  | _ => none

def toJson (settings : QuerySettings) : Json :=
  .object
    [
      ("default_top", .number (.ofUInt64 settings.defaultTop)),
      ("default_page_size", .number (.ofUInt64 settings.defaultPageSize)),
      ("id_prop_name", .string settings.idProperty)
    ]

end QuerySettings

namespace Config

/-- The size of first pages that the settings of a store hold. -/
def firstPageSizeOf? (conventions : Json.Conventions) (value : Json) : Option UInt64 := do
  match ← value.record? conventions ["first_page_size"] with
  | [size] => Json.orDefault standard.firstPageSize Json.count? size
  | _ => none

def ofJson? (conventions : Json.Conventions) (value : Json) : Option Config := do
  match ← value.record? conventions ["logging", "query", "store"] with
  | [logging, query, store] =>
    some ⟨← Json.orDefault standard.logging (LogSettings.ofJson? conventions) logging,
      ← Json.orDefault standard.query (QuerySettings.ofJson? conventions) query,
      ← Json.orDefault standard.firstPageSize (firstPageSizeOf? conventions) store⟩
  | _ => none

def toJson (config : Config) : Json :=
  .object
    [
      ("logging", config.logging.toJson), ("query", config.query.toJson),
      ("store", .object [("first_page_size", .number (.ofUInt64 config.firstPageSize))])
    ]

/-- The configuration that a text holds. -/
def parse (text : String) : Except ConfigError Config :=
  match Toml.read? text with
  | none => .error (.unreadable "the text is not a TOML document")
  | some entries =>
    match ofJson? .settings (.object (Toml.Value.entriesToJson entries)) with
    | some config => .ok config
    | none => .error (.unreadable "a setting has a value of another kind")

/-- The tables of a configuration. -/
def tables (config : Config) : List Toml.Section :=
  [
    ⟨"logging",
      [("level", .text config.logging.level), ("format", .text config.logging.format.name)]⟩,
    ⟨"query",
      [
        ("default_top", .count config.query.defaultTop.toNat),
        ("default_page_size", .count config.query.defaultPageSize.toNat),
        ("id_prop_name", .text config.query.idProperty)
      ]⟩,
    ⟨"store", [("first_page_size", .count config.firstPageSize.toNat)]⟩
  ]

/-- The text of a configuration. -/
def render (config : Config) : Except ConfigError String :=
  match Toml.write? config.tables with
  | some text => .ok text
  | none => .error (.unwritable "a size does not fit a signed number of 64 bits")

end Config

end RecordQuery
