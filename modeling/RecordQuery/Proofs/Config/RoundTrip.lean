import RecordQuery.Config.Exchange
import RecordQuery.Files.Folder
import RecordQuery.Proofs.CommandLine.Precedence
import RecordQuery.Proofs.Toml.Documents

/-! Configurations are read back from their texts, whatever the texts in them hold. So the
configuration that a run shows is the one in effect where what was shown is the file that is read.
-/

namespace RecordQuery

-----------------------------------------------------------------------------------------
-- Reading what is written
-----------------------------------------------------------------------------------------

/-- A 64-bit word is read back from the number that it is written as. -/
theorem Json.count?_ofUInt64 (n : UInt64) : (Json.number (.ofUInt64 n)).count? = some n := by
  dsimp only [Number.ofUInt64, Json.count?]
  rw [if_pos (Int.natCast_nonneg _), Int.toNat_natCast, UInt64.ofNat_toNat]

theorem Json.alternative?_name (format : LogFormat)
    : (Json.string format.name).alternative? .settings LogFormat.ofName? = some format := by
  cases format <;> rfl

theorem LogSettings.ofJson?_toJson (settings : LogSettings)
    : LogSettings.ofJson? .settings settings.toJson = some settings := by
  have found : settings.toJson.record? .settings ["level", "format"]
      = some [some (.string settings.level), some (.string settings.format.name)] := rfl
  rw [LogSettings.ofJson?, found]
  simp only [Option.bind_eq_bind, Option.bind_some, Json.orDefault, Json.text?,
    Json.alternative?_name]

theorem QuerySettings.ofJson?_toJson (settings : QuerySettings)
    : QuerySettings.ofJson? .settings settings.toJson = some settings := by
  have found
      : settings.toJson.record? .settings ["default_top", "default_page_size", "id_prop_name"]
        = some [some (.number (.ofUInt64 settings.defaultTop)),
          some (.number (.ofUInt64 settings.defaultPageSize)),
          some (.string settings.idProperty)] := rfl
  rw [QuerySettings.ofJson?, found]
  simp only [Option.bind_eq_bind, Option.bind_some, Json.orDefault, Json.text?,
    Json.count?_ofUInt64]

namespace Config

/-- The sizes fit signed words of 64 bits, as the numbers in a document have to. -/
structure HasSignedSizes (config : Config) : Prop where
  defaultTop : config.query.defaultTop.toNat < twoPow 63
  defaultPageSize : config.query.defaultPageSize.toNat < twoPow 63
  firstPageSize : config.firstPageSize.toNat < twoPow 63

variable {config : Config}

theorem isPlain_tables (config : Config) : Toml.IsPlain config.tables where
  names := by
    simp only [tables, List.forall_mem_cons]
    exact ⟨by decide, by decide, by decide, nofun⟩
  distinct := by
    change ["logging", "query", "store"].Nodup
    decide
  fields := by
    simp only [tables, List.forall_mem_cons]
    exact ⟨⟨by decide, by decide, nofun⟩, ⟨by decide, by decide, by decide, nofun⟩,
      ⟨by decide, nofun⟩, nofun⟩
  distinctFields := by
    simp only [tables, List.forall_mem_cons, List.map_cons, List.map_nil]
    exact ⟨by decide, by decide, by decide, nofun⟩

theorem exists_write?_tables (signed : config.HasSignedSizes)
    : ∃ text, Toml.write? config.tables = some text := by
  unfold Toml.write?
  rw [if_pos ?_]
  · exact ⟨_, rfl⟩
  · simp [tables, Toml.Field.isWritable, signed.defaultTop, signed.defaultPageSize,
      signed.firstPageSize]

/-- The integer nearest to a 64-bit word is the word. -/
theorem nearestInt_word (n : UInt64) : Number.nearestInt n.toNat = .ofUInt64 n := by
  have below : n.toNat < twoPow 64 := n.toNat_lt
  have kept : max (-(twoPow 63 : Int)) (min (n.toNat : Int) (twoPow 64 - 1)) = n.toNat := by
    generalize twoPow 64 = bound at *
    generalize twoPow 63 = bound' at *
    omega
  simp only [Number.nearestInt, Number.ofUInt64, kept]

/-- The tables of a configuration stand for its JSON value. -/
theorem toJson_tables (config : Config)
    : Json.object (Toml.Value.entriesToJson (config.tables.map Toml.Section.entry))
      = config.toJson := by
  simp only [tables, Toml.Section.entry, Toml.Section.entries, Toml.Field.value, List.map_cons,
    List.map_nil, Toml.Value.entriesToJson, Toml.Value.toJson, nearestInt_word]
  rfl

/-- A configuration is read back from its JSON value. -/
theorem ofJson?_toJson (config : Config) : ofJson? .settings config.toJson = some config := by
  have store : firstPageSizeOf? .settings
      (.object [("first_page_size", .number (.ofUInt64 config.firstPageSize))])
      = some config.firstPageSize := Json.count?_ofUInt64 config.firstPageSize
  have found : config.toJson.record? .settings ["logging", "query", "store"]
      = some [some config.logging.toJson, some config.query.toJson,
        some (.object [("first_page_size", .number (.ofUInt64 config.firstPageSize))])] := rfl
  rw [ofJson?, found]
  simp only [Option.bind_eq_bind, Option.bind_some, Json.orDefault, LogSettings.ofJson?_toJson,
    QuerySettings.ofJson?_toJson, store]

/-- A configuration whose sizes fit has a text, and it is read back from that text, with empty lines
behind it or without.
-/
theorem exists_render (signed : config.HasSignedSizes)
    : ∃ text, config.render = .ok text
      ∧ ∀ blanks, parse (text ++ String.ofList (List.replicate blanks '\n')) = .ok config := by
  obtain ⟨text, written⟩ := exists_write?_tables signed
  refine ⟨text, by rw [render, written], fun blanks => ?_⟩
  rw [parse, Toml.read?_of_write? config.isPlain_tables written blanks]
  dsimp only
  rw [toJson_tables, ofJson?_toJson]

end Config

-----------------------------------------------------------------------------------------
-- Showing a configuration
-----------------------------------------------------------------------------------------

namespace CommandLine

variable {config : Config} {overrides : Overrides}

/-- A command that needs a configuration. -/
def Command.needsConfig : Command → Bool
  | .query .. | .schema .. => true
  | .init .. => false

/-- A run that shows its configuration shows the one in effect and does nothing else. -/
theorem run_dump {σ : Type} (files : Files (StateM σ)) (state : σ) (ids : Nat → String)
    {environment : Environment} {arguments : List String} {command : Command}
    (asked : parse environment arguments = .ok ⟨command, overrides⟩)
    (needs : command.needsConfig = true) (shows : overrides.dump = true)
    (prepared
      : prepare ((loadConfig files overrides.configFile).run state).1 overrides = .ok config)
    : ((run files ids environment arguments).run state).1 = dump config := by
  have shown (work : Config → StateM σ Outcome)
      : ((withConfig files overrides work).run state).1 = dump config := by
    rcases found : (loadConfig files overrides.configFile).run state with ⟨loaded, after⟩
    rw [found] at prepared
    rw [withConfig, StateT.run_bind, found]
    dsimp only [bind] at prepared ⊢
    rw [prepared, shows]
    rfl
  rw [run, asked]
  cases command with
  | init output force => cases needs
  | query file parameters idProperty => exact shown _
  | schema file => exact shown _

/-- A file that holds a configuration that can be used is in effect where nothing else is said. -/
theorem prepare_of_file {σ : Type} {files : Files (StateM σ)} {state : σ} {named : Option String}
    {text : String} (found : FindsConfig files state named (some text))
    (read : Config.parse text = .ok config) (usable : config.check = .ok ()) (shows : Bool)
    : prepare ((loadConfig files named).run state).1 ⟨named, none, none, [], shows⟩
      = .ok config :=
  prepare_eq_ok_iff.mpr
    ⟨config, loadConfig_eq_ok_iff.mpr ⟨some text, found, read⟩, rfl, usable⟩

/-- Any configuration whose sizes fit signed words has a text from which it is read back. A run that
shows its configuration prints that text, and where what was printed is the configuration file of a
run of which nothing else is said, the same configuration is in effect.
-/
theorem render_dump_isRead (signed : config.HasSignedSizes)
    : (∃ text, config.render = .ok text ∧ Config.parse text = .ok config)
      ∧ ∀ {σ : Type} (files : Files (StateM σ)) (state : σ) (ids : Nat → String)
          (environment : Environment) (arguments : List String) (command : Command)
          (overrides : Overrides),
        parse environment arguments = .ok ⟨command, overrides⟩
        → command.needsConfig = true
        → overrides.dump = true
        → prepare ((loadConfig files overrides.configFile).run state).1 overrides = .ok config
        → ∃ printed, ((run files ids environment arguments).run state).1 = .success printed
          ∧ ∀ {τ : Type} (others : Files (StateM τ)) (start : τ) (named : Option String)
              (shows : Bool),
            FindsConfig others start named (some printed)
            → prepare ((loadConfig others named).run start).1 ⟨named, none, none, [], shows⟩
              = .ok config := by
  obtain ⟨text, rendered, read⟩ := Config.exists_render signed
  refine ⟨⟨text, rendered, by simpa using read 0⟩, ?_⟩
  intro σ files state ids environment arguments command overrides asked needs shows prepared
  obtain ⟨_, _, _, usable⟩ := prepare_eq_ok_iff.mp prepared
  refine ⟨text ++ "\n", ?_, fun others start named shows found => ?_⟩
  · rw [run_dump files state ids asked needs shows prepared, dump, rendered]
  · exact prepare_of_file found (read 1) usable shows

/-- A configuration with texts that have to be quoted in different ways. -/
def quotedConfig : Config :=
  ⟨⟨"\t'\"'\\\n\x01", .json⟩, ⟨10, 25, "a\"b'c\\"⟩, 100⟩

/-- The assignments that come to it from the standard configuration. -/
def quotedAssignments : List String :=
  ["logging.level=\t'\"'\\\n\x01", "query.id_prop_name=a\"b'c\\", "logging.format=json",
    "query.default_page_size=25"]

/-- The folder whose configuration file holds what was shown. -/
def shownFolder (printed : String) : Folder :=
  ⟨[(defaultConfigFile, printed)]⟩

theorem render_dump_isRead_quoted
    : let arguments := ["schema", "data.json", "--dump-config"]
        ++ quotedAssignments.flatMap (fun text => ["--set", text])
      quotedConfig.HasSignedSizes
      ∧ (∃ text, quotedConfig.render = .ok text ∧ Config.parse text = .ok quotedConfig)
      ∧ ∃ printed,
        ((run Folder.access Nat.repr ⟨none, none, none⟩ arguments).run ⟨[]⟩).1 = .success printed
        ∧ prepare ((loadConfig Folder.access none).run (shownFolder printed)).1
            ⟨none, none, none, [], false⟩
          = .ok quotedConfig := by
  intro arguments
  have signed : quotedConfig.HasSignedSizes := ⟨by decide, by decide, by decide⟩
  have asked : parse ⟨none, none, none⟩ arguments
      = .ok ⟨.schema "data.json", ⟨none, none, none, quotedAssignments, true⟩⟩ := by
    rfl
  have prepared : prepare ((loadConfig Folder.access none).run ⟨[]⟩).1
      ⟨none, none, none, quotedAssignments, true⟩ = .ok quotedConfig := by
    rfl
  obtain ⟨rendered, dumped⟩ := render_dump_isRead signed
  obtain ⟨printed, shown, read⟩ := dumped Folder.access ⟨[]⟩ Nat.repr _ _ _ _ asked rfl rfl prepared
  refine ⟨signed, rendered, printed, shown, read Folder.access (shownFolder printed) none false ?_⟩
  have there : (Folder.access.contains defaultConfigFile).run (shownFolder printed)
      = (true, shownFolder printed) := rfl
  exact .file there rfl

end CommandLine

end RecordQuery
