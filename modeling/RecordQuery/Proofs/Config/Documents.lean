import RecordQuery.Config.Exchange
import RecordQuery.Proofs.Config.Settings

/-! What a document says of the settings. Each setting has its place there, under a name in a table;
one that the document does not say anything of has its standard value.
-/

namespace RecordQuery

/-- What a record holds under one of its names: the field of an object, or the item of an array at
the place of the name.
-/
def Json.held? (names : List String) (name : String) : Json → Option Json
  | .object fields => field? name fields
  | .array items => items[names.idxOf name]?
  | _ => none

/-- The values of a record are what it holds under each of its names. -/
theorem Json.eq_of_record? {names : List String} (distinct : names.Nodup) {value : Json}
    {values : List (Option Json)} (found : value.record? .settings names = some values)
    : values = names.map (value.held? names) := by
  cases value with
  | null | bool _ | number _ | string _ => cases found
  | object fields =>
      cases found
      rfl
  | array items =>
      obtain rfl : names.zipIdx.map (fun entry => items[entry.2]?) = values := by
        simpa [record?, Conventions.settings] using found
      apply List.ext_getElem
      · simp
      · intro place _ within
        simp only [List.length_map] at within
        simp [held?, distinct.idxOf_getElem place within]

namespace Setting

/-- The table of a setting in a document. -/
def table : Setting → String
  | .logLevel | .logFormat => "logging"
  | .defaultTop | .defaultPageSize | .idProperty => "query"
  | .firstPageSize => "store"

/-- The name of a setting in its table. -/
def name : Setting → String
  | .logLevel => "level"
  | .logFormat => "format"
  | .defaultTop => "default_top"
  | .defaultPageSize => "default_page_size"
  | .idProperty => "id_prop_name"
  | .firstPageSize => "first_page_size"

/-- The tables of a document, in order. -/
def tables : List String := ["logging", "query", "store"]

/-- The settings of a table, in order. -/
def among (table : String) : List Setting := all.filter (fun setting => setting.table = table)

/-- What a table holds under the name of a setting. -/
def inTable? (setting : Setting) : Json → Option Json :=
  Json.held? ((among setting.table).map name) setting.name

/-- What a document holds at the place of a setting. -/
def inDocument? (setting : Setting) (document : Json) : Option Json :=
  (document.held? tables setting.table).bind setting.inTable?

/-- The value that a setting has by what is held for it. -/
def ofJson? (setting : Setting) (held : Json) : Option Value :=
  match setting with
  | .logLevel | .idProperty => held.text?.map .text
  | .logFormat => (held.alternative? .settings LogFormat.ofName?).map .layout
  | .defaultTop | .defaultPageSize | .firstPageSize => held.count?.map .size

/-- The value that a setting has by what is held for it, or the standard value if nothing is. -/
def valueOf? (setting : Setting) : Option Json → Option Value :=
  Json.orDefault (Config.standard.value setting) setting.ofJson?

end Setting

-----------------------------------------------------------------------------------------
-- Reading a document
-----------------------------------------------------------------------------------------

/-- What is read of a field or taken in its place, converted. -/
theorem Json.orDefault_map {default : α} {read : Json → Option α} {held : Option Json} {value : α}
    (convert : α → β) (given : Json.orDefault default read held = some value)
    : Json.orDefault (convert default) (fun held => (read held).map convert) held
      = some (convert value) := by
  cases held with
  | none => exact congrArg (·.map convert) given
  | some held => exact congrArg (·.map convert) given

section

variable {table document : Json} {config : Config} {setting : Setting}

theorem LogSettings.valueOf?_inTable?
    (given : LogSettings.ofJson? .settings table = some config.logging)
    (within : setting.table = "logging")
    : setting.valueOf? (setting.inTable? table) = some (config.value setting) := by
  obtain ⟨values, found, given⟩ := Option.bind_eq_some_iff.mp given
  rw [Json.eq_of_record? (by decide) found] at given
  obtain ⟨level, levelGiven, given⟩ := Option.bind_eq_some_iff.mp given
  obtain ⟨format, formatGiven, given⟩ := Option.bind_eq_some_iff.mp given
  have same := Option.some.inj given
  cases setting with
  | logLevel =>
      rw [Config.value, ← same]
      exact Json.orDefault_map Setting.Value.text levelGiven
  | logFormat =>
      rw [Config.value, ← same]
      exact Json.orDefault_map Setting.Value.layout formatGiven
  | defaultTop | defaultPageSize | idProperty | firstPageSize => exact absurd within (by decide)

theorem QuerySettings.valueOf?_inTable?
    (given : QuerySettings.ofJson? .settings table = some config.query)
    (within : setting.table = "query")
    : setting.valueOf? (setting.inTable? table) = some (config.value setting) := by
  obtain ⟨values, found, given⟩ := Option.bind_eq_some_iff.mp given
  rw [Json.eq_of_record? (by decide) found] at given
  obtain ⟨top, topGiven, given⟩ := Option.bind_eq_some_iff.mp given
  obtain ⟨pageSize, pageSizeGiven, given⟩ := Option.bind_eq_some_iff.mp given
  obtain ⟨idProperty, idPropertyGiven, given⟩ := Option.bind_eq_some_iff.mp given
  have same := Option.some.inj given
  cases setting with
  | defaultTop =>
      rw [Config.value, ← same]
      exact Json.orDefault_map Setting.Value.size topGiven
  | defaultPageSize =>
      rw [Config.value, ← same]
      exact Json.orDefault_map Setting.Value.size pageSizeGiven
  | idProperty =>
      rw [Config.value, ← same]
      exact Json.orDefault_map Setting.Value.text idPropertyGiven
  | logLevel | logFormat | firstPageSize => exact absurd within (by decide)

theorem Config.valueOf?_inTable?
    (given : Config.firstPageSizeOf? .settings table = some config.firstPageSize)
    (within : setting.table = "store")
    : setting.valueOf? (setting.inTable? table) = some (config.value setting) := by
  obtain ⟨values, found, given⟩ := Option.bind_eq_some_iff.mp given
  rw [Json.eq_of_record? (by decide) found] at given
  cases setting with
  | firstPageSize => exact Json.orDefault_map Setting.Value.size given
  | logLevel | logFormat | defaultTop | defaultPageSize | idProperty =>
      exact absurd within (by decide)

/-- The value of a setting by what a document holds is that by its table, if there is one. -/
theorem Setting.valueOf?_bind {held : Option Json} {default part : α} {read : Json → Option α}
    (given : Json.orDefault default read held = some part)
    (outside : default = part → Config.standard.value setting = config.value setting)
    (inside : ∀ table, read table = some part
      → setting.valueOf? (setting.inTable? table) = some (config.value setting))
    : setting.valueOf? (held.bind setting.inTable?) = some (config.value setting) := by
  cases held with
  | none => exact congrArg some (outside (Option.some.inj given))
  | some table => exact inside table given

/-- A document that is read gives each setting the value that it says, or the standard one. -/
theorem Config.valueOf?_inDocument? (given : Config.ofJson? .settings document = some config)
    : setting.valueOf? (setting.inDocument? document) = some (config.value setting) := by
  obtain ⟨values, found, given⟩ := Option.bind_eq_some_iff.mp given
  rw [Json.eq_of_record? (by decide) found] at given
  obtain ⟨logging, loggingGiven, given⟩ := Option.bind_eq_some_iff.mp given
  obtain ⟨query, queryGiven, given⟩ := Option.bind_eq_some_iff.mp given
  obtain ⟨size, sizeGiven, given⟩ := Option.bind_eq_some_iff.mp given
  obtain rfl := Option.some.inj given
  cases setting with
  | logLevel | logFormat =>
      refine Setting.valueOf?_bind loggingGiven ?_ fun _ given =>
        LogSettings.valueOf?_inTable? given rfl
      rintro rfl
      rfl
  | defaultTop | defaultPageSize | idProperty =>
      refine Setting.valueOf?_bind queryGiven ?_ fun _ given =>
        QuerySettings.valueOf?_inTable? given rfl
      rintro rfl
      rfl
  | firstPageSize =>
      refine Setting.valueOf?_bind sizeGiven ?_ fun _ given => Config.valueOf?_inTable? given rfl
      rintro rfl
      rfl

end

-----------------------------------------------------------------------------------------
-- Reading a text
-----------------------------------------------------------------------------------------

/-- What a text holds at the place of a setting, if it is a document. -/
def Setting.inText? (setting : Setting) (text : String) : Option Json :=
  (Toml.read? text).bind fun entries =>
    setting.inDocument? (.object (Toml.Value.entriesToJson entries))

theorem Config.valueOf?_inText? {text : String} {config : Config} (read : parse text = .ok config)
    (setting : Setting)
    : setting.valueOf? (setting.inText? text) = some (config.value setting) := by
  unfold parse at read
  unfold Setting.inText?
  cases entries : Toml.read? text with
  | none =>
      rw [entries] at read
      cases read
  | some entries' =>
      simp only [entries] at read
      cases held : ofJson? .settings (.object (Toml.Value.entriesToJson entries')) with
      | none =>
          rw [held] at read
          cases read
      | some config' =>
          rw [held] at read
          cases read
          exact Config.valueOf?_inDocument? held

end RecordQuery
