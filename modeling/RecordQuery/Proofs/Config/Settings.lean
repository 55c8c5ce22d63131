import RecordQuery.Config.Basic
import RecordQuery.Proofs.Except
import RecordQuery.Proofs.Filter.Names

/-! The settings of a configuration, one by one. A configuration is known by the values of its
settings. A text that stands for a value changes the setting to that value and no other setting; any
other text is refused, and then nothing has been changed.
-/

namespace RecordQuery

/-- The value of a setting. -/
inductive Setting.Value where
  | text (s : String)
  | layout (format : LogFormat)
  | size (n : UInt64)
  deriving DecidableEq

namespace Setting

/-- The value that a text stands for as one of a setting. -/
def read? (setting : Setting) (text : String) : Option Value :=
  match setting with
  | .logLevel | .idProperty => some (.text text)
  | .logFormat => (LogFormat.ofName? (String.ofList (Text.toLower text.toList))).map .layout
  | .defaultTop | .defaultPageSize | .firstPageSize =>
    (Text.unsigned64? text.toList).map .size

theorem ofKey?_eq_some {key : String} {setting : Setting}
    : ofKey? key = some setting ↔ setting.key = key :=
  find?_key_eq_some (fun setting => by cases setting <;> decide) (by decide)

theorem ofKey?_eq_none {key : String}
    : ofKey? key = none ↔ ∀ setting : Setting, setting.key ≠ key := by
  rw [Option.eq_none_iff_forall_ne_some]
  simp only [ne_eq, ofKey?_eq_some]

end Setting

namespace Config

/-- The value that a configuration has for a setting. -/
def value (config : Config) : Setting → Setting.Value
  | .logLevel => .text config.logging.level
  | .logFormat => .layout config.logging.format
  | .defaultTop => .size config.query.defaultTop
  | .defaultPageSize => .size config.query.defaultPageSize
  | .idProperty => .text config.query.idProperty
  | .firstPageSize => .size config.firstPageSize

/-- Configurations with the same values are the same. -/
theorem ext_value {config other : Config}
    (same : ∀ setting, config.value setting = other.value setting)
    : config = other := by
  obtain ⟨⟨level, format⟩, ⟨top, pageSize, idProperty⟩, firstPageSize⟩ := config
  obtain ⟨⟨level', format'⟩, ⟨top', pageSize', idProperty'⟩, firstPageSize'⟩ := other
  cases same .logLevel
  cases same .logFormat
  cases same .defaultTop
  cases same .defaultPageSize
  cases same .idProperty
  cases same .firstPageSize
  rfl

/-- A configuration after another one, with one setting at a value and all others as they were. -/
def IsChange (config : Config) (setting : Setting) (value : Setting.Value) (next : Config) : Prop :=
  ∀ other, next.value other = if other = setting then value else config.value other

variable {config next : Config} {setting : Setting} {text : String} {value : Setting.Value}

theorem IsChange.unique {other : Config} (change : config.IsChange setting value next)
    (again : config.IsChange setting value other)
    : next = other :=
  ext_value fun setting => (change setting).trans (again setting).symm

/-- A text that stands for a value changes the setting to it. -/
theorem exists_set_of_read? (config : Config) (read : setting.read? text = some value)
    : ∃ next, config.set setting text = .ok next ∧ config.IsChange setting value next := by
  cases setting with
  | logLevel | idProperty =>
      cases read
      exact ⟨_, rfl, fun other => by cases other <;> rfl⟩
  | logFormat =>
      obtain ⟨format, named, rfl⟩ := Option.map_eq_some_iff.mp read
      refine ⟨{ config with logging := { config.logging with format } }, ?_,
        fun other => by cases other <;> rfl⟩
      rw [set, formatOf, named]
      rfl
  | defaultTop =>
      obtain ⟨size, counted, rfl⟩ := Option.map_eq_some_iff.mp read
      refine ⟨{ config with query := { config.query with defaultTop := size } }, ?_,
        fun other => by cases other <;> rfl⟩
      rw [set, sizeOf, counted]
      rfl
  | defaultPageSize =>
      obtain ⟨size, counted, rfl⟩ := Option.map_eq_some_iff.mp read
      refine ⟨{ config with query := { config.query with defaultPageSize := size } }, ?_,
        fun other => by cases other <;> rfl⟩
      rw [set, sizeOf, counted]
      rfl
  | firstPageSize =>
      obtain ⟨size, counted, rfl⟩ := Option.map_eq_some_iff.mp read
      refine ⟨{ config with firstPageSize := size }, ?_, fun other => by cases other <;> rfl⟩
      rw [set, sizeOf, counted]
      rfl

/-- Any other text is refused. -/
theorem set_of_read?_none (refused : setting.read? text = none)
    : config.set setting text = .error (.invalidValue setting text) := by
  cases setting with
  | logLevel | idProperty => cases refused
  | logFormat =>
      rw [set, formatOf, Option.map_eq_none_iff.mp refused]
      rfl
  | defaultTop | defaultPageSize | firstPageSize =>
      rw [set, sizeOf, Option.map_eq_none_iff.mp refused]
      rfl

theorem set_eq_ok_iff
    : config.set setting text = .ok next
      ↔ ∃ value, setting.read? text = some value ∧ config.IsChange setting value next := by
  constructor
  · intro done
    cases read : setting.read? text with
    | none =>
        rw [set_of_read?_none read] at done
        cases done
    | some value =>
        obtain ⟨other, same, change⟩ := exists_set_of_read? config read
        rw [done] at same
        cases same
        exact ⟨value, rfl, change⟩
  · rintro ⟨value, read, change⟩
    obtain ⟨other, done, change'⟩ := exists_set_of_read? config read
    rw [done, change.unique change']

theorem setKey_eq_ok_iff {key : String}
    : config.setKey key text = .ok next
      ↔ ∃ setting value, setting.key = key ∧ setting.read? text = some value
        ∧ config.IsChange setting value next := by
  unfold setKey
  cases known : Setting.ofKey? key with
  | some setting =>
      have named := Setting.ofKey?_eq_some.mp known
      dsimp only
      rw [set_eq_ok_iff]
      constructor
      · rintro ⟨value, read, change⟩
        exact ⟨setting, value, named, read, change⟩
      · rintro ⟨other, value, named', read, change⟩
        rw [Setting.ofKey?_eq_some.mpr named'] at known
        cases known
        exact ⟨value, read, change⟩
  | none =>
      refine ⟨(nomatch ·), fun ⟨setting, _, named, _⟩ => ?_⟩
      exact absurd named (Setting.ofKey?_eq_none.mp known setting)

/-- A key or a text that is refused is so in every configuration, and for the same reason. -/
theorem setKey_error {key : String} {error : ConfigError}
    (refused : config.setKey key text = .error error) (other : Config)
    : other.setKey key text = .error error := by
  unfold setKey at refused ⊢
  cases known : Setting.ofKey? key with
  | none =>
      rw [known] at refused
      exact refused
  | some setting =>
      rw [known] at refused
      dsimp only at refused ⊢
      cases read : setting.read? text with
      | none =>
          rw [set_of_read?_none read] at refused ⊢
          exact refused
      | some value =>
          obtain ⟨next, done, _⟩ := exists_set_of_read? config read
          rw [done] at refused
          cases refused

-----------------------------------------------------------------------------------------
-- Changes in place
-----------------------------------------------------------------------------------------

/-- Change the setting of a key in a configuration that is held: a text is read first, and what is
held is changed where it stands for a value.
-/
def setInPlace (key text : String) : ExceptT ConfigError (StateM Config) Unit :=
  match Setting.ofKey? key with
  | some .logLevel =>
    modify fun config => { config with logging := { config.logging with level := text } }
  | some .logFormat => do
    let format ← (formatOf text : Except ConfigError LogFormat)
    modify fun config => { config with logging := { config.logging with format := format } }
  | some .defaultTop => do
    let size ← (sizeOf .defaultTop text : Except ConfigError UInt64)
    modify fun config => { config with query := { config.query with defaultTop := size } }
  | some .defaultPageSize => do
    let size ← (sizeOf .defaultPageSize text : Except ConfigError UInt64)
    modify fun config => { config with query := { config.query with defaultPageSize := size } }
  | some .idProperty =>
    modify fun config => { config with query := { config.query with idProperty := text } }
  | some .firstPageSize => do
    let size ← (sizeOf .firstPageSize text : Except ConfigError UInt64)
    modify fun config => { config with firstPageSize := size }
  | none => throw (.unknownKey key)

/-- A change in place comes to the configuration that the change gives, or leaves what was held. -/
theorem setInPlace_eq (config : Config) (key text : String)
    : (setInPlace key text).run.run config
      = match config.setKey key text with
        | .ok next => (.ok (), next)
        | .error error => (.error error, config) := by
  unfold setInPlace setKey
  cases Setting.ofKey? key with
  | none => rfl
  | some setting =>
      cases setting with
      | logLevel | idProperty => rfl
      | logFormat =>
          dsimp only [set]
          cases formatOf text with
          | ok format => rfl
          | error error => rfl
      | defaultTop | defaultPageSize | firstPageSize =>
          dsimp only [set]
          cases sizeOf _ text with
          | ok size => rfl
          | error error => rfl

end Config

end RecordQuery
