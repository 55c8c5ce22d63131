import Mathlib.Data.List.Induction
import RecordQuery.CommandLine.Program
import RecordQuery.Files.Folder
import RecordQuery.Proofs.Config.Documents
import RecordQuery.Proofs.Text.Runs

/-! Where the settings in effect come from. Each setting has the value that was assigned to it last,
or else the one of its flag, or else the one that the file says, or else the standard one. Texts are
refused one by one, wherever they stand; whether sizes and the id property can be used is decided
of what is left in the end.
-/

namespace RecordQuery

open CommandLine

-----------------------------------------------------------------------------------------
-- Assignments
-----------------------------------------------------------------------------------------

namespace CommandLine

/-- A text assigns a value to a key, from which it is split at its first equals sign. -/
def IsAssignment (text key value : String) : Prop :=
  '=' ∉ key.toList ∧ text = key ++ "=" ++ value

theorem splitAssignment?_eq_some_iff {text key value : String}
    : splitAssignment? text = some (key, value) ↔ IsAssignment text key value := by
  unfold splitAssignment?
  dsimp only
  rw [Text.drop_length_takeWhile]
  constructor
  · intro found
    have whole := List.takeWhile_append_dropWhile (p := (· != '=')) (l := text.toList)
    have stops := Text.stops_dropWhile (· != '=') text.toList
    cases behind : text.toList.dropWhile (· != '=') with
    | nil =>
        rw [behind] at found
        cases found
    | cons c rest =>
        rw [behind] at found stops whole
        cases found
        obtain rfl : c = '=' := by simpa using stops c rfl
        refine ⟨?_, String.toList_injective ?_⟩
        · intro inside
          rw [String.toList_ofList] at inside
          simpa using Text.of_mem_takeWhile inside
        · simpa using whole.symm
  · rintro ⟨absent, rfl⟩
    have run : ∀ c ∈ key.toList, (c != '=') = true := by
      intro c member
      simpa using ne_of_mem_of_not_mem member absent
    have stops : Text.Stops (· != '=') ('=' :: value.toList) := Text.stops_cons rfl _
    have spelled : (key ++ "=" ++ value).toList = key.toList ++ '=' :: value.toList := by
      simp
    rw [spelled, Text.takeWhile_append_of_stops run stops, Text.dropWhile_append_of_stops run stops]
    simp

/-- A text can be an assignment: to a key that is known, of a value that the key accepts. -/
def IsAcceptable (text : String) : Prop :=
  ∃ key value, IsAssignment text key value
    ∧ ∃ setting : Setting, setting.key = key ∧ (setting.read? value).isSome

end CommandLine

namespace Setting

variable {setting other : Setting} {text value : String}

/-- The text that is assigned to a setting. -/
def assigned? (setting : Setting) (text : String) : Option String :=
  match splitAssignment? text with
  | some (key, value) => if key = setting.key then some value else none
  | none => none

theorem assigned?_eq_some_iff
    : setting.assigned? text = some value ↔ IsAssignment text setting.key value := by
  rw [← splitAssignment?_eq_some_iff]
  unfold assigned?
  cases splitAssignment? text with
  | none => simp
  | some found => simp [Prod.ext_iff]

/-- Keys have no equals sign, so a text that puts one behind a key assigns to the key. -/
theorem isAssignment (setting : Setting) (value : String)
    : IsAssignment (setting.key ++ "=" ++ value) setting.key value :=
  ⟨by cases setting <;> decide, rfl⟩

theorem assigned?_assignment
    : setting.assigned? (other.key ++ "=" ++ value)
      = if other = setting then some value else none := by
  have split := splitAssignment?_eq_some_iff.mpr (other.isAssignment value)
  have keys : other.key = setting.key ↔ other = setting := by
    refine ⟨fun same => ?_, congrArg key⟩
    exact Option.some.inj ((ofKey?_eq_some.mpr same).symm.trans (ofKey?_eq_some.mpr rfl))
  simp only [assigned?, split, keys]

end Setting

namespace CommandLine

variable {config base next : Config} {text : String} {texts : List String} {setting : Setting}

/-- An assignment to a setting sets it. -/
theorem assign_of_assigned? {value : String} (assigned : setting.assigned? text = some value)
    (config : Config)
    : assign config text = (config.set setting value).mapError .config := by
  have split := splitAssignment?_eq_some_iff.mpr (Setting.assigned?_eq_some_iff.mp assigned)
  have known : Setting.ofKey? setting.key = some setting := Setting.ofKey?_eq_some.mpr rfl
  simp only [assign, split, Config.setKey, known]

/-- What one assignment does: it changes the setting that it names to the value that it gives. -/
theorem assign_eq_ok_iff
    : assign config text = .ok next
      ↔ ∃ setting content value, setting.assigned? text = some content
        ∧ setting.read? content = some value ∧ config.IsChange setting value next := by
  constructor
  · intro done
    unfold assign at done
    cases split : splitAssignment? text with
    | none =>
        rw [split] at done
        cases done
    | some found =>
        obtain ⟨key, content⟩ := found
        rw [split] at done
        obtain ⟨setting, value, rfl, read, change⟩ :=
          Config.setKey_eq_ok_iff.mp (eq_ok_of_mapError done)
        exact ⟨setting, content, value,
          Setting.assigned?_eq_some_iff.mpr (splitAssignment?_eq_some_iff.mp split), read, change⟩
  · rintro ⟨setting, content, value, assigned, read, change⟩
    rw [assign_of_assigned? assigned, Config.set_eq_ok_iff.mpr ⟨value, read, change⟩]
    rfl

theorem isAcceptable_iff
    : IsAcceptable text
      ↔ ∃ (setting : Setting) (content : String) (value : Setting.Value),
        setting.assigned? text = some content ∧ setting.read? content = some value := by
  simp only [Setting.assigned?_eq_some_iff]
  constructor
  · rintro ⟨_, content, assigned, setting, rfl, accepted⟩
    obtain ⟨value, read⟩ := Option.isSome_iff_exists.mp accepted
    exact ⟨setting, content, value, assigned, read⟩
  · rintro ⟨setting, content, value, assigned, read⟩
    exact ⟨_, content, assigned, setting, rfl, Option.isSome_iff_exists.mpr ⟨value, read⟩⟩

/-- The last text that is assigned to a setting. -/
def lastText (texts : List String) (setting : Setting) : Option String :=
  (texts.filterMap setting.assigned?).getLast?

/-- The value of a setting after some assignments: the one assigned last, or that from before. -/
def valueAfter (base : Config) (texts : List String) (setting : Setting) : Option Setting.Value :=
  match lastText texts setting with
  | some text => setting.read? text
  | none => some (base.value setting)

theorem lastText_append (texts more : List String) (setting : Setting)
    : lastText (texts ++ more) setting = (lastText more setting).or (lastText texts setting) := by
  rw [lastText, List.filterMap_append, List.getLast?_append]
  rfl

theorem lastText_singleton (text : String) (setting : Setting)
    : lastText [text] setting = setting.assigned? text := by
  cases assigned : setting.assigned? text <;> simp [lastText, assigned]

/-- The setting that a text assigns to is at what the text gives; all others are as without it. -/
theorem valueAfter_append_singleton {content : String}
    (assigned : setting.assigned? text = some content) (base : Config) (texts : List String)
    (other : Setting)
    : valueAfter base (texts ++ [text]) other
      = if other = setting then setting.read? content else valueAfter base texts other := by
  obtain ⟨_, rfl⟩ := Setting.assigned?_eq_some_iff.mp assigned
  simp only [valueAfter, lastText_append, lastText_singleton, Setting.assigned?_assignment]
  by_cases same : setting = other
  · subst same
    simp
  · simp [same, Ne.symm same]

/-- Acceptable assignments succeed. -/
theorem exists_foldlM_assign (acceptable : ∀ text ∈ texts, IsAcceptable text) (base : Config)
    : ∃ config, texts.foldlM assign base = .ok config := by
  induction texts generalizing base with
  | nil => exact ⟨base, rfl⟩
  | cons text rest ih =>
      rw [List.forall_mem_cons] at acceptable
      obtain ⟨setting, content, value, assigned, read⟩ := isAcceptable_iff.mp acceptable.1
      obtain ⟨next, done, change⟩ := Config.exists_set_of_read? base read
      obtain ⟨config, rest⟩ := ih acceptable.2 next
      refine ⟨config, ?_⟩
      rw [List.foldlM_cons, assign_eq_ok_iff.mpr ⟨setting, content, value, assigned, read, change⟩]
      exact rest

/-- Assignments succeed where each of them is acceptable, and then each setting has the value that
was assigned to it last.
-/
theorem foldlM_assign_eq_ok_iff
    : texts.foldlM assign base = .ok config
      ↔ (∀ text ∈ texts, IsAcceptable text)
        ∧ ∀ setting, some (config.value setting) = valueAfter base texts setting := by
  -- The last text decides the setting that it names, so the induction takes it away.
  induction texts using List.reverseRecOn generalizing config with
  | nil =>
      constructor
      · intro same
        cases same
        exact ⟨by simp, fun setting => rfl⟩
      · rintro ⟨_, same⟩
        exact congrArg Except.ok
          (Config.ext_value fun setting => (Option.some.inj (same setting)).symm)
  | append_singleton texts text ih =>
      rw [List.foldlM_append, List.forall_mem_append, List.forall_mem_singleton]
      constructor
      · intro done
        obtain ⟨middle, before, done⟩ := exists_of_bind_eq_ok done
        rw [List.foldlM_cons] at done
        obtain ⟨last, done, same⟩ := exists_of_bind_eq_ok done
        cases same
        obtain ⟨acceptable, values⟩ := ih.mp before
        obtain ⟨setting, content, value, assigned, read, change⟩ := assign_eq_ok_iff.mp done
        refine ⟨⟨acceptable, isAcceptable_iff.mpr ⟨setting, content, value, assigned, read⟩⟩, ?_⟩
        intro other
        rw [valueAfter_append_singleton assigned, change other]
        split
        · exact read.symm
        · exact values other
      · rintro ⟨⟨acceptable, last⟩, values⟩
        obtain ⟨middle, before⟩ := exists_foldlM_assign acceptable base
        obtain ⟨setting, content, value, assigned, read⟩ := isAcceptable_iff.mp last
        have change : middle.IsChange setting value config := by
          intro other
          have after := values other
          rw [valueAfter_append_singleton assigned, read, ← (ih.mp before).2 other] at after
          rw [← Option.some_inj, after]
          split <;> rfl
        rw [before]
        exact congrArg (· >>= pure)
          (assign_eq_ok_iff.mpr ⟨setting, content, value, assigned, read, change⟩)

-----------------------------------------------------------------------------------------
-- Assignments in another order
-----------------------------------------------------------------------------------------

/-- The same texts in another order, with those for one key in the order that they had. -/
structure IsReordering (texts others : List String) : Prop where
  perm : texts.Perm others
  sameFor : ∀ key, (texts.filterMap splitAssignment?).filter (fun found => found.1 = key)
    = (others.filterMap splitAssignment?).filter (fun found => found.1 = key)

/-- The texts assigned to a setting are those behind its key. -/
theorem filterMap_assigned? (texts : List String) (setting : Setting)
    : texts.filterMap setting.assigned?
      = ((texts.filterMap splitAssignment?).filter (fun found => found.1 = setting.key)).map
        Prod.snd := by
  induction texts with
  | nil => rfl
  | cons text rest ih =>
      rw [List.filterMap_cons, List.filterMap_cons, ih, Setting.assigned?]
      cases splitAssignment? text with
      | none => rfl
      | some found =>
          by_cases named : found.1 = setting.key <;> simp [named]

variable {others : List String}

theorem IsReordering.valueAfter (reordering : IsReordering texts others) (base : Config)
    (setting : Setting)
    : valueAfter base texts setting = valueAfter base others setting := by
  unfold CommandLine.valueAfter lastText
  rw [filterMap_assigned?, filterMap_assigned?, reordering.sameFor]

/-- Assignments in another order come to the same configuration. -/
theorem IsReordering.foldlM_assign_eq_ok_iff (reordering : IsReordering texts others)
    : texts.foldlM assign base = .ok config ↔ others.foldlM assign base = .ok config := by
  rw [CommandLine.foldlM_assign_eq_ok_iff, CommandLine.foldlM_assign_eq_ok_iff]
  simp only [reordering.valueAfter, reordering.perm.mem_iff]

/-- A text that is refused is so in every configuration, and for the same reason. -/
theorem assign_error {error : SetupError} (refused : assign base text = .error error)
    (config : Config)
    : assign config text = .error error := by
  unfold assign at refused ⊢
  cases split : splitAssignment? text with
  | none =>
      rw [split] at refused
      exact refused
  | some found =>
      rw [split] at refused
      obtain ⟨cause, failed, rfl⟩ := exists_of_mapError_eq_error refused
      dsimp only
      rw [Config.setKey_error failed config]
      rfl

/-- A text that is refused, in whatever configuration. -/
def isRefused (text : String) : Bool :=
  !(assign .standard text).isOk

/-- Assignments fail with the refusal of the first text that is refused. -/
theorem exists_of_foldlM_assign_error {error : SetupError}
    (failed : texts.foldlM assign base = .error error)
    : ∃ text, texts.find? isRefused = some text ∧ ∀ config, assign config text = .error error := by
  induction texts generalizing base with
  | nil => cases failed
  | cons text rest ih =>
      rw [List.foldlM_cons] at failed
      rcases eq_error_of_bind failed with refused | ⟨next, done, failed⟩
      · have first : isRefused text = true := by
          rw [isRefused, assign_error refused]
          rfl
        exact ⟨text, List.find?_cons_of_pos first, assign_error refused⟩
      · have accepted : isRefused text = false := by
          rw [isRefused]
          cases standard : assign .standard text with
          | ok config => rfl
          | error error => cases (assign_error standard base).symm.trans done
        obtain ⟨other, first, refused⟩ := ih failed
        exact ⟨other, by rw [List.find?_cons_of_neg (by simp [accepted]), first], refused⟩

/-- Assignments in another order come to the same, where the same text is the first to be refused. -/
theorem IsReordering.foldlM_assign_eq (reordering : IsReordering texts others)
    (sameFirst : texts.find? isRefused = others.find? isRefused) (base : Config)
    : texts.foldlM assign base = others.foldlM assign base := by
  cases done : texts.foldlM assign base with
  | ok config => exact (reordering.foldlM_assign_eq_ok_iff.mp done).symm
  | error error =>
      cases again : others.foldlM assign base with
      | ok config =>
          rw [reordering.foldlM_assign_eq_ok_iff.mpr again] at done
          cases done
      | error error' =>
          obtain ⟨text, first, refused⟩ := exists_of_foldlM_assign_error done
          obtain ⟨other, first', refused'⟩ := exists_of_foldlM_assign_error again
          cases first.symm.trans (sameFirst.trans first')
          exact (refused base).symm.trans (refused' base)

/-- Two assignments to different keys can change places. -/
theorem isReordering_swap {first second key other value content : String}
    (one : splitAssignment? first = some (key, value))
    (two : splitAssignment? second = some (other, content)) (differ : key ≠ other)
    : IsReordering [first, second] [second, first] := by
  refine ⟨List.Perm.swap second first [], fun wanted => ?_⟩
  simp only [List.filterMap_cons, List.filterMap_nil, one, two]
  by_cases named : key = wanted
  · subst named
    simp [differ.symm]
  · by_cases named' : other = wanted <;> simp [named, named']

-----------------------------------------------------------------------------------------
-- The layers
-----------------------------------------------------------------------------------------

/-- The text that a flag, or else the environment, gives for a setting. -/
def Overrides.flagText (overrides : Overrides) : Setting → Option String
  | .logLevel => overrides.logLevel
  | .logFormat => overrides.logFormat
  | .defaultTop | .defaultPageSize | .idProperty | .firstPageSize => none

/-- A text for a setting, if there is one, as an assignment. -/
def asAssignment (setting : Setting) (text : Option String) : List String :=
  (text.map (setting.key ++ "=" ++ ·)).toList

theorem setGiven_eq (base : Config) (setting : Setting) (text : Option String)
    : setGiven base setting text = (asAssignment setting text).foldlM assign base := by
  cases text with
  | none => rfl
  | some text =>
      have assigned := Setting.assigned?_eq_some_iff.mpr (setting.isAssignment text)
      change _ = assign base _ >>= pure
      rw [bind_pure, assign_of_assigned? assigned]
      rfl

theorem lastText_asAssignment (setting other : Setting) (text : Option String)
    : lastText (asAssignment other text) setting = if other = setting then text else none := by
  cases text with
  | none => simp [asAssignment, lastText]
  | some text => exact (lastText_singleton _ _).trans Setting.assigned?_assignment

/-- The texts of flags as assignments. -/
def Overrides.flagTexts (overrides : Overrides) : List String :=
  asAssignment .logLevel overrides.logLevel ++ asAssignment .logFormat overrides.logFormat

theorem Overrides.lastText_flagTexts (overrides : Overrides) (setting : Setting)
    : lastText overrides.flagTexts setting = overrides.flagText setting := by
  rw [flagTexts, lastText_append, lastText_asAssignment, lastText_asAssignment]
  cases setting <;> simp [flagText]

/-- Flags do what assignments in front of the others do. -/
theorem Overrides.apply_eq (overrides : Overrides) (base : Config)
    : overrides.apply base
      = (overrides.flagTexts ++ overrides.assignments).foldlM assign base := by
  simp only [Overrides.apply, setGiven_eq, flagTexts, List.foldlM_append, bind_assoc]

theorem isAcceptable_assignment {setting : Setting} {value : String}
    : IsAcceptable (setting.key ++ "=" ++ value) ↔ (setting.read? value).isSome := by
  rw [isAcceptable_iff, Option.isSome_iff_exists]
  simp only [Setting.assigned?_assignment]
  constructor
  · rintro ⟨other, content, found, assigned, read⟩
    obtain ⟨rfl, same⟩ := Option.ite_none_right_eq_some.mp assigned
    cases same
    exact ⟨found, read⟩
  · rintro ⟨found, read⟩
    exact ⟨setting, value, found, if_pos rfl, read⟩

/-- The only flag whose text may be refused is that for the layout of the log. -/
theorem Overrides.forall_flagTexts_iff (overrides : Overrides)
    : (∀ text ∈ overrides.flagTexts, IsAcceptable text)
      ↔ ∀ text ∈ overrides.logFormat, (Setting.logFormat.read? text).isSome := by
  simp [flagTexts, asAssignment, or_imp, forall_and, isAcceptable_assignment, Setting.read?]

/-- What the file says is loaded; without a file it is the standard configuration. -/
def IsLoaded (content : Option String) (base : Config) : Prop :=
  match content with
  | some text => Config.parse text = .ok base
  | none => base = .standard

/-- The value of a setting: the one assigned last, or else that of its flag, or else what the file
says, or else the standard one.
-/
def chosenValue (overrides : Overrides) (content : Option String) (setting : Setting)
    : Option Setting.Value :=
  match (lastText overrides.assignments setting).or (overrides.flagText setting) with
  | some text => setting.read? text
  | none => setting.valueOf? (content.bind setting.inText?)

/-- No text that is given is refused: the file is a configuration, the flag for the log layout names
one, and each assignment is acceptable.
-/
structure IsSound (overrides : Overrides) (content : Option String) : Prop where
  file : ∀ text ∈ content, ∃ base, Config.parse text = .ok base
  flag : ∀ text ∈ overrides.logFormat, (Setting.logFormat.read? text).isSome
  assignments : ∀ text ∈ overrides.assignments, IsAcceptable text

theorem valueOf?_of_isLoaded {content : Option String} (loaded : IsLoaded content base)
    (setting : Setting)
    : setting.valueOf? (content.bind setting.inText?) = some (base.value setting) := by
  cases content with
  | some text => exact Config.valueOf?_inText? loaded setting
  | none =>
      obtain rfl : base = .standard := loaded
      rfl

theorem valueAfter_flagTexts {overrides : Overrides} {content : Option String}
    (loaded : IsLoaded content base) (setting : Setting)
    : valueAfter base (overrides.flagTexts ++ overrides.assignments) setting
      = chosenValue overrides content setting := by
  rw [valueAfter, lastText_append, overrides.lastText_flagTexts, chosenValue,
    valueOf?_of_isLoaded loaded]

/-- What is said of a loaded configuration can be applied where its texts are acceptable, and each
setting then has the chosen value.
-/
theorem Overrides.apply_eq_ok_iff {overrides : Overrides} {content : Option String}
    (loaded : IsLoaded content base)
    : overrides.apply base = .ok config
      ↔ (∀ text ∈ overrides.logFormat, (Setting.logFormat.read? text).isSome)
        ∧ (∀ text ∈ overrides.assignments, IsAcceptable text)
        ∧ ∀ setting, some (config.value setting) = chosenValue overrides content setting := by
  rw [overrides.apply_eq, foldlM_assign_eq_ok_iff, List.forall_mem_append,
    overrides.forall_flagTexts_iff, and_assoc]
  simp only [valueAfter_flagTexts loaded]

-----------------------------------------------------------------------------------------
-- The file
-----------------------------------------------------------------------------------------

section

variable {σ : Type} {files : Files (StateM σ)} {state : σ} {named : Option String}
  {content : Option String}

/-- The text that there is of a configuration: that of the file that is named, or else of the usual
file; if none is named and the usual one is not there, there is none.
-/
inductive FindsConfig (files : Files (StateM σ)) (state : σ) (named : Option String)
    : Option String → Prop
  | file {text after last}
    (there : (files.contains (named.getD defaultConfigFile)).run state = (true, after))
    (held : (files.read (named.getD defaultConfigFile)).run after = (.ok text, last))
    : FindsConfig files state named (some text)
  | nothing {after} (unnamed : named = none)
    (absent : (files.contains defaultConfigFile).run state = (false, after))
    : FindsConfig files state named none

theorem run_readConfig (files : Files (StateM σ)) (state : σ) (name : String)
    : ((readConfig files name).run state).1
      = match ((files.read name).run state).1 with
        | .ok text => Config.parse text
        | .error error => .error (.brokenFile name error) := by
  rw [readConfig, StateT.run_bind]
  rcases (files.read name).run state with ⟨found, after⟩
  cases found <;> rfl

theorem run_loadConfig (files : Files (StateM σ)) (state : σ) (named : Option String)
    : ((loadConfig files named).run state).1
      = match (files.contains (named.getD defaultConfigFile)).run state with
        | (true, after) => ((readConfig files (named.getD defaultConfigFile)).run after).1
        | (false, _) =>
          match named with
          | some name => .error (.noFile name)
          | none => .ok .standard := by
  cases named with
  | none =>
      rw [loadConfig, StateT.run_bind, Option.getD_none]
      rcases (files.contains defaultConfigFile).run state with ⟨there, after⟩
      cases there <;> rfl
  | some name =>
      rw [loadConfig, StateT.run_bind, Option.getD_some]
      rcases (files.contains name).run state with ⟨there, after⟩
      cases there <;> rfl

/-- A configuration is loaded where its text is found and read. -/
theorem loadConfig_eq_ok_iff
    : ((loadConfig files named).run state).1 = .ok base
      ↔ ∃ content, FindsConfig files state named content ∧ IsLoaded content base := by
  rw [run_loadConfig]
  constructor
  · intro loaded
    rcases there : (files.contains (named.getD defaultConfigFile)).run state with ⟨_ | _, after⟩
    · rw [there] at loaded
      cases named with
      | some name => cases loaded
      | none => exact ⟨none, .nothing rfl there, (Except.ok.inj loaded).symm⟩
    · rw [there] at loaded
      dsimp only at loaded
      rw [run_readConfig] at loaded
      rcases held : (files.read (named.getD defaultConfigFile)).run after with ⟨_ | text, last⟩
      · rw [held] at loaded
        cases loaded
      · rw [held] at loaded
        exact ⟨some text, .file there held, loaded⟩
  · rintro ⟨content, found, loaded⟩
    cases found with
    | file there held =>
        rw [there]
        dsimp only
        rw [run_readConfig, held]
        exact loaded
    | nothing unnamed absent =>
        subst unnamed
        rw [Option.getD_none, absent]
        exact congrArg Except.ok loaded.symm

end

-----------------------------------------------------------------------------------------
-- The configuration in effect
-----------------------------------------------------------------------------------------

theorem prepare_eq_ok_iff {loaded : Except ConfigError Config} {overrides : Overrides}
    : prepare loaded overrides = .ok config
      ↔ ∃ base, loaded = .ok base ∧ overrides.apply base = .ok config ∧ config.check = .ok () := by
  constructor
  · intro prepared
    obtain ⟨base, read, prepared⟩ := exists_of_bind_eq_ok prepared
    obtain ⟨last, applied, prepared⟩ := exists_of_bind_eq_ok prepared
    obtain ⟨_, checked, same⟩ := exists_of_bind_eq_ok prepared
    cases same
    exact ⟨base, eq_ok_of_mapError read, applied, eq_ok_of_mapError checked⟩
  · rintro ⟨base, rfl, applied, checked⟩
    simp [prepare, Except.mapError, bind, Except.bind, applied, checked, pure, Except.pure]

theorem IsSound.exists_isLoaded {overrides : Overrides} {content : Option String}
    (sound : IsSound overrides content)
    : ∃ base, IsLoaded content base := by
  cases content with
  | some text => exact sound.file text rfl
  | none => exact ⟨.standard, rfl⟩

/-- Sound texts leave a value for each setting. -/
theorem IsSound.exists_chosen {overrides : Overrides} {content : Option String}
    (sound : IsSound overrides content)
    : ∃ config : Config, ∀ setting,
        some (config.value setting) = chosenValue overrides content setting := by
  obtain ⟨base, loaded⟩ := sound.exists_isLoaded
  have acceptable : ∀ text ∈ overrides.flagTexts ++ overrides.assignments, IsAcceptable text :=
    List.forall_mem_append.mpr ⟨overrides.forall_flagTexts_iff.mpr sound.flag, sound.assignments⟩
  obtain ⟨config, applied⟩ := exists_foldlM_assign acceptable base
  rw [← overrides.apply_eq, Overrides.apply_eq_ok_iff loaded] at applied
  exact ⟨config, applied.2.2⟩

section

variable {overrides : Overrides}

theorem IsReordering.apply_eq_ok_iff (reordering : IsReordering overrides.assignments others)
    : overrides.apply base = .ok config
      ↔ { overrides with assignments := others }.apply base = .ok config := by
  -- The flags come first and are the same, so what is reordered starts from one configuration.
  rw [overrides.apply_eq, Overrides.apply_eq, List.foldlM_append, List.foldlM_append]
  change (overrides.flagTexts.foldlM assign base >>= _) = _
    ↔ (overrides.flagTexts.foldlM assign base >>= _) = _
  cases overrides.flagTexts.foldlM assign base with
  | error error => exact Iff.rfl
  | ok middle => exact reordering.foldlM_assign_eq_ok_iff

theorem IsReordering.apply_eq (reordering : IsReordering overrides.assignments others)
    (sameFirst : overrides.assignments.find? isRefused = others.find? isRefused) (base : Config)
    : overrides.apply base = { overrides with assignments := others }.apply base := by
  rw [overrides.apply_eq, Overrides.apply_eq, List.foldlM_append, List.foldlM_append]
  exact congrArg (overrides.flagTexts.foldlM assign base >>= ·)
    (funext (reordering.foldlM_assign_eq sameFirst))

theorem IsReordering.prepare_eq_ok_iff (reordering : IsReordering overrides.assignments others)
    (loaded : Except ConfigError Config)
    : prepare loaded overrides = .ok config
      ↔ prepare loaded { overrides with assignments := others } = .ok config := by
  simp only [CommandLine.prepare_eq_ok_iff, reordering.apply_eq_ok_iff]

theorem IsReordering.prepare_eq (reordering : IsReordering overrides.assignments others)
    (sameFirst : overrides.assignments.find? isRefused = others.find? isRefused)
    (loaded : Except ConfigError Config)
    : prepare loaded overrides = prepare loaded { overrides with assignments := others } := by
  unfold prepare
  simp only [reordering.apply_eq sameFirst]

end

/-- A configuration is in effect where the texts are sound and the values that they leave can be
used.
-/
theorem prepare_loadConfig_eq_ok_iff {σ : Type} (files : Files (StateM σ)) (state : σ)
    (overrides : Overrides)
    : prepare ((loadConfig files overrides.configFile).run state).1 overrides = .ok config
      ↔ ∃ content, FindsConfig files state overrides.configFile content
        ∧ IsSound overrides content
        ∧ (∀ setting, some (config.value setting) = chosenValue overrides content setting)
        ∧ config.check = .ok () := by
  simp only [prepare_eq_ok_iff, loadConfig_eq_ok_iff]
  constructor
  · rintro ⟨base, ⟨content, found, loaded⟩, applied, checked⟩
    obtain ⟨flag, assignments, values⟩ := (Overrides.apply_eq_ok_iff loaded).mp applied
    refine ⟨content, found, ⟨?_, flag, assignments⟩, values, checked⟩
    rintro text rfl
    exact ⟨base, loaded⟩
  · rintro ⟨content, found, sound, values, checked⟩
    obtain ⟨base, loaded⟩ := sound.exists_isLoaded
    exact ⟨base, ⟨content, found, loaded⟩,
      (Overrides.apply_eq_ok_iff loaded).mpr ⟨sound.flag, sound.assignments, values⟩, checked⟩

variable {σ : Type}

/-- There is a configuration in effect exactly where the file, the flag and all assignments are
sound and the chosen values can be used; it has the value for each setting that was assigned last,
or else that of the flag or the environment, or else the file's, or else the standard one. The order
of assignments to different keys makes no difference to it, nor to the failure unless another text
is the first to be refused. A change that is refused leaves the configuration, where one that
succeeds changes the setting of its key only.
-/
theorem prepare_isLayered (files : Files (StateM σ)) (state : σ) (overrides : Overrides)
    : let effective (assignments : List String) :=
        prepare ((loadConfig files overrides.configFile).run state).1
          { overrides with assignments := assignments }
      (∀ config, effective overrides.assignments = .ok config
        ↔ ∃ content, FindsConfig files state overrides.configFile content
          ∧ IsSound overrides content
          ∧ (∀ setting, some (config.value setting) = chosenValue overrides content setting)
          ∧ config.check = .ok ())
      ∧ (∀ content, IsSound overrides content
        → ∃ config : Config, ∀ setting,
          some (config.value setting) = chosenValue overrides content setting)
      ∧ (∀ others, IsReordering overrides.assignments others
        → (∀ config, effective overrides.assignments = .ok config ↔ effective others = .ok config)
          ∧ (overrides.assignments.find? isRefused = others.find? isRefused
            → effective overrides.assignments = effective others))
      ∧ (∀ environment before behind,
        (overridesOf environment before behind).logLevel
            = ((behind.value? .logLevel).or (before.value? .logLevel)).or environment.logLevel
          ∧ (overridesOf environment before behind).logFormat
            = ((behind.value? .logFormat).or (before.value? .logFormat)).or environment.logFormat)
      ∧ ∀ (config : Config) (key text : String),
        match (Config.setInPlace key text).run.run config with
        | (.ok (), next) =>
          config.setKey key text = .ok next
          ∧ ∃ setting value, setting.key = key ∧ setting.read? text = some value
            ∧ config.IsChange setting value next
        | (.error error, next) => config.setKey key text = .error error ∧ next = config := by
  refine ⟨fun config => prepare_loadConfig_eq_ok_iff files state overrides,
    fun content sound => sound.exists_chosen, ?_, ?_, ?_⟩
  · intro others reordering
    exact ⟨fun config => reordering.prepare_eq_ok_iff _,
      fun sameFirst => reordering.prepare_eq sameFirst _⟩
  · intro environment before behind
    exact ⟨(Option.or_assoc ..).symm, (Option.or_assoc ..).symm⟩
  · intro config key text
    rw [Config.setInPlace_eq]
    cases changed : config.setKey key text with
    | ok next => exact ⟨rfl, Config.setKey_eq_ok_iff.mp changed⟩
    | error error => exact ⟨rfl, rfl⟩

/-- A folder whose configuration file gives two settings. -/
def settingsFolder : Folder :=
  ⟨[(defaultConfigFile, "[query]\ndefault_top = 7\ndefault_page_size = 3\n")]⟩

/-- One of the settings is assigned anew, and so is another one; their order makes no difference. -/
theorem prepare_isLayered_swapped
    : let texts := ["query.default_top=5", "query.id_prop_name=key"]
      let overrides : Overrides := ⟨none, some "debug", none, texts, false⟩
      let config : Config := ⟨⟨"debug", .pretty⟩, ⟨5, 3, "key"⟩, 100⟩
      let loaded := ((loadConfig Folder.access none).run settingsFolder).1
      IsReordering texts texts.reverse
      ∧ prepare loaded overrides = .ok config
      ∧ prepare loaded { overrides with assignments := texts.reverse } = .ok config := by
  intro texts overrides config loaded
  have reordering : IsReordering texts texts.reverse := isReordering_swap rfl rfl (by decide)
  have prepared : prepare loaded overrides = .ok config := by
    decide +kernel
  obtain ⟨_, _, reordered, _⟩ := prepare_isLayered Folder.access settingsFolder overrides
  exact ⟨reordering, prepared, ((reordered _ reordering).1 config).mp prepared⟩

/-- Of two texts that are refused, the one that comes first is complained of. -/
theorem not_prepare_eq_of_isReordering
    : ¬ ∀ (loaded : Except ConfigError Config) (overrides : Overrides) (others : List String),
        IsReordering overrides.assignments others
        → prepare loaded overrides = prepare loaded { overrides with assignments := others } := by
  intro claimed
  let texts := ["query.default_top=x", "store.first_page_size=y"]
  have reordering : IsReordering texts texts.reverse := isReordering_swap rfl rfl (by decide)
  have same := claimed (.ok .standard) ⟨none, none, none, texts, false⟩ texts.reverse reordering
  revert same
  decide +kernel

end CommandLine

end RecordQuery
