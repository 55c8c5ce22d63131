import RecordQuery.CommandLine.Program
import RecordQuery.Files.Folder
import RecordQuery.Proofs.Json.Reading
import RecordQuery.Proofs.Service.LastWrite

/-! What the query command comes to. The records of the file are stored as a text in an empty store
and read back from it, and no failure comes from there: the command answers as the records of the
file do, and where it fails, the file is at fault only if it has no text or the text is no value.
-/

namespace RecordQuery

/-- A value that gives records is taken as a collection. -/
theorem Collection.exists_text_of_given {raw : Json} {records : List Json}
    (given : Collection.given? raw = some records)
    : ∃ text, Collection.text raw = .ok text := by
  unfold Collection.given? at given
  split at given
  · exact ⟨_, rfl⟩
  · next text =>
      split at given
      · next read => exact ⟨text, by rw [Collection.text, read]⟩
      · cases given
  · cases given

namespace CommandLine

-----------------------------------------------------------------------------------------
-- The steps from a file to an answer
-----------------------------------------------------------------------------------------

/-- What is computed for the reply to a query on a file: the value that the file holds, the
collection that is stored, and the answer of the endpoint that is made of it.
-/
def computed (config : Config) (ids : Nat → String) (content : Except FileError String)
    (parameters : String) (idProperty : Option String) : Except (Halt Failure) QueryResult := do
  let value ← (valueOf content).mapError .told
  let new ← (Service.accept config.query idProperty value).mapError .told
  Service.answer config.query ((Store.empty config.firstPageSize ids).issue new) parameters

variable {config : Config} {ids : Nat → String} {content : Except FileError String}
  {parameters : String} {idProperty : Option String}

/-- The endpoint that was stored first is found again under the id that clients are told. -/
theorem found_issue (firstPageSize : UInt64) (unmarked : ¬ Endpoint.idMark <+: (ids 0).toList)
    (new : NewEndpoint)
    : let store := Store.empty firstPageSize ids
      (store.added new).found (Endpoint.anyStoreId (store.issue new).forClients.id)
        = .ok (store.issue new) := by
  intro store
  have told : (store.issue new).forClients.id = ids 0 := Store.publicId_storeId (ids 0)
  rw [told, Store.anyStoreId_of_unmarked unmarked, Store.found, Store.added]
  simp [store, Store.empty, Store.issue, Store.nextId]

/-- The reply is the one to what is computed. -/
theorem queryReply?_eq (config : Config) (unmarked : ¬ Endpoint.idMark <+: (ids 0).toList)
    (content : Except FileError String) (parameters : String) (idProperty : Option String)
    : queryReply? config ids content parameters idProperty
      = Reply.ofHalting?
        ((computed config ids content parameters idProperty).map QueryResult.toJson) := by
  unfold queryReply? replyOn? computed
  dsimp only
  refine congrArg Reply.ofHalting? ?_
  change (Store.perform (Store.empty config.firstPageSize ids) _).1 = _
  rw [Store.perform_bind, Store.perform_lift]
  cases valueOf content with
  | error failure => rfl
  | ok value =>
      dsimp only [Except.mapError]
      rw [Store.perform_bind, Store.perform_halting, Service.perform_create]
      cases accepted : Service.accept config.query idProperty value with
      | error failure => simp [bind, Except.bind, accepted, Except.map, Except.mapError]
      | ok new =>
          dsimp only [Except.mapError]
          rw [Store.perform_bind_pure, Service.perform_query, found_issue _ unmarked]
          simp [bind, Except.bind, accepted, Except.mapError]

/-- The endpoint of an accepted value answers as the records that the value gives: a value that was
read from a text is read back from the text that is stored of it.
-/
theorem exists_answer_issue {value : Json} {text : String} {new : NewEndpoint} (store : Store)
    (read : Json.read? text = some value) (back : value.ReadsBack)
    (accepted : Service.accept config.query idProperty value = .ok new) (parameters : String)
    : ∃ records path, Collection.given? value = some records
      ∧ PropertyPath.parse (idProperty.getD config.query.idProperty) = .ok path
      ∧ Service.answer config.query (store.issue new) parameters
        = (Query.answer config.query path records parameters).mapError
            (Halt.map .ofQueryError) := by
  obtain ⟨stored, written, accepted⟩ := exists_of_bind_eq_ok accepted
  obtain ⟨path, checked, accepted⟩ := exists_of_bind_eq_ok accepted
  cases accepted
  obtain ⟨shallow, distinct⟩ := Json.isPlain_of_read? read
  obtain ⟨records, given, parsed⟩ := Service.parse_of_given written shallow back distinct
  have named := Service.parse_of_check checked
  refine ⟨records, path, given, named, ?_⟩
  apply Service.answer_eq
  · exact parsed
  · exact named

/-- A value that gives records is accepted under an id property that is a path. -/
theorem exists_accept_of_given {settings : QuerySettings} {value : Json} {records : List Json}
    {path : PropertyPath} (given : Collection.given? value = some records)
    (named : PropertyPath.parse (idProperty.getD settings.idProperty) = .ok path)
    : ∃ new, Service.accept settings idProperty value = .ok new := by
  obtain ⟨stored, written⟩ := Collection.exists_text_of_given given
  refine ⟨⟨idProperty.getD settings.idProperty, stored⟩, ?_⟩
  simp [Service.accept, written, PropertyPath.check, named, Except.mapError, bind, Except.bind,
    pure, Except.pure]

-----------------------------------------------------------------------------------------
-- When there is an answer, and who is at fault where there is none
-----------------------------------------------------------------------------------------

/-- A file has a text, and the text is a value. -/
def HoldsValue (content : Except FileError String) : Prop :=
  ∃ text value, content = .ok text ∧ Json.read? text = some value

/-- The value that a file holds, if it holds one, is read back from the text that is printed of it. -/
def ReadsBack (content : Except FileError String) : Prop :=
  ∀ text value, content = .ok text → Json.read? text = some value → value.ReadsBack

/-- The query that a query string gives is ready to be run on the records of a file: they are an
array or the text of one, and their cursors are under the path that is named, or else under the one
of the settings.
-/
structure IsReady (config : Config) (content : Except FileError String) (parameters : String)
    (idProperty : Option String) (records : List Json) (path : PropertyPath) (query : Query)
    : Prop where
  records : ∃ text value, content = .ok text ∧ Json.read? text = some value
    ∧ Collection.given? value = some records
  path : PropertyPath.parse (idProperty.getD config.query.idProperty) = .ok path
  query : Query.ofString config.query.pageDefaults parameters = .ok query

/-- The query that a query string gives is answered on the records of a file. -/
def IsAnswered (config : Config) (content : Except FileError String) (parameters : String)
    (idProperty : Option String) (result : QueryResult) : Prop :=
  ∃ records path query, IsReady config content parameters idProperty records path query
    ∧ query.run path.cursor records = .ok result

/-- The query that a query string gives stops, for it cannot sort the records of a file. -/
def IsStopped (config : Config) (content : Except FileError String) (parameters : String)
    (idProperty : Option String) : Prop :=
  ∃ records path query, IsReady config content parameters idProperty records path query
    ∧ query.StopsSorting path.cursor records

theorem valueOf_eq_ok_iff {value : Json}
    : valueOf content = .ok value ↔ ∃ text, content = .ok text ∧ Json.read? text = some value := by
  cases content with
  | error error => simp [valueOf]
  | ok text => cases read : Json.read? text <;> simp [valueOf, read]

/-- A file that gives no value is not readable or not a value, and the client is not at fault. -/
theorem status_of_valueOf_error {failure : Failure} (failed : valueOf content = .error failure)
    : failure.kind.status = 500 ∧ ¬ HoldsValue content := by
  constructor
  · unfold valueOf at failed
    split at failed
    · cases failed
      rfl
    · split at failed
      · cases failed
      · cases failed
        rfl
  · rintro ⟨text, value, has, read⟩
    rw [valueOf_eq_ok_iff.mpr ⟨text, has, read⟩] at failed
    cases failed

/-- A query that is ready decides what is computed. -/
theorem IsReady.computed_eq {records : List Json} {path : PropertyPath} {query : Query}
    (ready : IsReady config content parameters idProperty records path query)
    (back : ReadsBack content)
    : computed config ids content parameters idProperty
      = (query.run path.cursor records).mapError (Halt.map .ofQueryError) := by
  obtain ⟨text, value, has, read, given⟩ := ready.records
  obtain ⟨new, accepted⟩ := exists_accept_of_given given ready.path
  obtain ⟨records', path', given', named', same⟩ := exists_answer_issue
    (Store.empty config.firstPageSize ids) read (back text value has read) accepted parameters
  cases given.symm.trans given'
  cases ready.path.symm.trans named'
  have held : valueOf content = .ok value := valueOf_eq_ok_iff.mpr ⟨text, has, read⟩
  simp only [computed, held, accepted, same, Query.answer, ready.query, bind, Except.bind,
    Except.mapError]

/-- Where no query is ready there is a failure, for which the file is at fault exactly where it gives
no value.
-/
theorem computed_eq_error_or_isReady (config : Config) (ids : Nat → String)
    (parameters : String) (idProperty : Option String) (back : ReadsBack content)
    : (∃ failure, computed config ids content parameters idProperty = .error (.told failure)
        ∧ (failure.kind.status = 500 ↔ ¬ HoldsValue content)
        ∧ (failure.kind.status = 400 ↔ HoldsValue content)
        ∧ ∀ records path query,
          ¬ IsReady config content parameters idProperty records path query)
      ∨ ∃ records path query, IsReady config content parameters idProperty records path query := by
  cases held : valueOf content with
  | error failure =>
      obtain ⟨status, none⟩ := status_of_valueOf_error held
      refine .inl ⟨failure, ?_, by simp [status, none], by simp [status, none], ?_⟩
      · rw [computed, held]
        rfl
      · rintro _ _ _ ⟨⟨text, value, has, read, _⟩, _, _⟩
        exact none ⟨text, value, has, read⟩
  | ok value =>
      obtain ⟨text, has, read⟩ := valueOf_eq_ok_iff.mp held
      have holds : HoldsValue content := ⟨text, value, has, read⟩
      cases accepted : Service.accept config.query idProperty value with
      | error failure =>
          have status := Service.status_of_accept_error accepted
          refine .inl ⟨failure, ?_, by simp [status, holds], by simp [status, holds], ?_⟩
          · simp only [computed, held, accepted, bind, Except.bind, Except.mapError]
          · rintro _ _ _ ⟨⟨text', value', has', read', given⟩, named, _⟩
            cases has.symm.trans has'
            cases read.symm.trans read'
            obtain ⟨new, accepted'⟩ := exists_accept_of_given given named
            cases accepted.symm.trans accepted'
      | ok new =>
          obtain ⟨records, path, given, named, same⟩ := exists_answer_issue
            (Store.empty config.firstPageSize ids) read (back text value has read) accepted
            parameters
          cases bound : Query.ofString config.query.pageDefaults parameters with
          | ok query =>
              exact .inr ⟨records, path, query, ⟨text, value, has, read, given⟩, named, bound⟩
          | error error =>
              have status := Failure.status_ofQueryError error
              refine .inl ⟨.ofQueryError error, ?_, by simp [status, holds],
                by simp [status, holds], ?_⟩
              · simp only [computed, held, accepted, same, Query.answer, bound, bind, Except.bind,
                  Except.mapError, Halt.map]
              · rintro _ _ _ ⟨_, _, bound'⟩
                cases bound.symm.trans bound'

/-- How a run ends with what is computed for it. -/
def outcomeOf : Except (Halt Failure) QueryResult → Outcome
  | .ok result => .success (result.toJson.renderPretty ++ "\n")
  | .error (.told failure) => .failure (.reply (.ofFailure failure))
  | .error .stopped => .stopped

theorem outcome_eq (config : Config) (unmarked : ¬ Endpoint.idMark <+: (ids 0).toList)
    (content : Except FileError String) (parameters : String) (idProperty : Option String)
    : Outcome.ofReply? (queryReply? config ids content parameters idProperty)
      = outcomeOf (computed config ids content parameters idProperty) := by
  rw [queryReply?_eq config unmarked]
  rcases computed config ids content parameters idProperty with (failure | _) | result
  case ok => rfl
  case error.stopped => rfl
  case error.told =>
    have failing : (Reply.ofFailure failure).isSuccess = false := by
      cases kind : failure.kind <;> simp [Reply.isSuccess, Reply.ofFailure, kind, FailureKind.status]
    simp [Outcome.ofReply?, Outcome.ofReply, Reply.ofHalting?, Reply.ofResult, Except.map,
      failing, outcomeOf]

/-- What a query command comes to on the content of its file: it goes well with an answer, it stops
where its query does, and else it reports a failure.
-/
structure IsOutcome (config : Config) (content : Except FileError String) (parameters : String)
    (idProperty : Option String) (outcome : Outcome) : Prop where
  exitCode : outcome.exitCode = 0
    ↔ ∃ result, IsAnswered config content parameters idProperty result
  success : ∀ result, IsAnswered config content parameters idProperty result
    → outcome = .success (result.toJson.renderPretty ++ "\n")
  stopped : outcome = .stopped ↔ IsStopped config content parameters idProperty
  failure : (¬ ∃ result, IsAnswered config content parameters idProperty result)
    → ¬ IsStopped config content parameters idProperty
    → ∃ reply, outcome = .failure (.reply reply)
      ∧ (reply.status = 500 ↔ ¬ HoldsValue content)
      ∧ (reply.status = 400 ↔ HoldsValue content)

theorem IsReady.unique {records records' : List Json} {path path' : PropertyPath}
    {query query' : Query} (ready : IsReady config content parameters idProperty records path query)
    (ready' : IsReady config content parameters idProperty records' path' query')
    : records = records' ∧ path = path' ∧ query = query' := by
  obtain ⟨text, value, has, read, given⟩ := ready.records
  obtain ⟨text', value', has', read', given'⟩ := ready'.records
  cases has.symm.trans has'
  cases read.symm.trans read'
  cases given.symm.trans given'
  cases ready.path.symm.trans ready'.path
  cases ready.query.symm.trans ready'.query
  exact ⟨rfl, rfl, rfl⟩

/-- The answer is the one of a query that is ready. -/
theorem IsReady.isAnswered_iff {records : List Json} {path : PropertyPath} {query : Query}
    (ready : IsReady config content parameters idProperty records path query)
    {result : QueryResult}
    : IsAnswered config content parameters idProperty result
      ↔ query.run path.cursor records = .ok result := by
  constructor
  · rintro ⟨_, _, _, ready', ran⟩
    obtain ⟨rfl, rfl, rfl⟩ := ready.unique ready'
    exact ran
  · exact fun ran => ⟨records, path, query, ready, ran⟩

theorem IsReady.isStopped_iff {records : List Json} {path : PropertyPath} {query : Query}
    (ready : IsReady config content parameters idProperty records path query)
    : IsStopped config content parameters idProperty
      ↔ query.run path.cursor records = .error .stopped := by
  rw [Query.run_eq_stopped_iff_stopsSorting]
  constructor
  · rintro ⟨_, _, _, ready', stops⟩
    obtain ⟨rfl, rfl, rfl⟩ := ready.unique ready'
    exact stops
  · exact fun stops => ⟨records, path, query, ready, stops⟩

/-- A query that is ready comes out as it runs. -/
theorem IsReady.isOutcome {records : List Json} {path : PropertyPath} {query : Query}
    (ready : IsReady config content parameters idProperty records path query)
    (back : ReadsBack content)
    : IsOutcome config content parameters idProperty
        (outcomeOf (computed config ids content parameters idProperty)) := by
  have holds : HoldsValue content := by
    obtain ⟨text, value, has, read, _⟩ := ready.records
    exact ⟨text, value, has, read⟩
  rw [ready.computed_eq back]
  rcases ran : query.run path.cursor records with (error | _) | result
  case ok =>
    exact {
      exitCode := ⟨fun _ => ⟨result, ready.isAnswered_iff.mpr ran⟩, fun _ => rfl⟩
      success := fun other same => by
        cases ran.symm.trans (ready.isAnswered_iff.mp same)
        rfl
      stopped := ⟨nofun, fun stops => nomatch ran.symm.trans (ready.isStopped_iff.mp stops)⟩
      failure := fun none => absurd ⟨result, ready.isAnswered_iff.mpr ran⟩ none
    }
  case error.told =>
    have status := Failure.status_ofQueryError error
    exact {
      exitCode := ⟨nofun, fun ⟨_, same⟩ => nomatch ran.symm.trans (ready.isAnswered_iff.mp same)⟩
      success := fun _ same => nomatch ran.symm.trans (ready.isAnswered_iff.mp same)
      stopped := ⟨nofun, fun stops => nomatch ran.symm.trans (ready.isStopped_iff.mp stops)⟩
      failure := fun _ _ =>
        ⟨.ofFailure (.ofQueryError error), rfl, by simp [Reply.ofFailure, status, holds],
          by simp [Reply.ofFailure, status, holds]⟩
    }
  case error.stopped =>
    exact {
      exitCode := ⟨nofun, fun ⟨_, same⟩ => nomatch ran.symm.trans (ready.isAnswered_iff.mp same)⟩
      success := fun _ same => nomatch ran.symm.trans (ready.isAnswered_iff.mp same)
      stopped := ⟨fun _ => ready.isStopped_iff.mpr ran, fun _ => rfl⟩
      failure := fun _ goesOn => absurd (ready.isStopped_iff.mpr ran) goesOn
    }

theorem isOutcome (config : Config) (ids : Nat → String) (parameters : String)
    (idProperty : Option String) (back : ReadsBack content)
    : IsOutcome config content parameters idProperty
        (outcomeOf (computed config ids content parameters idProperty)) := by
  rcases computed_eq_error_or_isReady config ids parameters idProperty back
    with ⟨failure, failed, atFault, atFault', none⟩ | ⟨records, path, query, ready⟩
  · rw [failed]
    exact {
      exitCode := ⟨nofun, fun ⟨_, _, _, _, ready, _⟩ => absurd ready (none _ _ _)⟩
      success := fun _ ⟨_, _, _, ready, _⟩ => absurd ready (none _ _ _)
      stopped := ⟨nofun, fun ⟨_, _, _, ready, _⟩ => absurd ready (none _ _ _)⟩
      failure := fun _ _ => ⟨.ofFailure failure, rfl, atFault, atFault'⟩
    }
  · exact ready.isOutcome back

-----------------------------------------------------------------------------------------
-- The run
-----------------------------------------------------------------------------------------

variable {σ : Type} {environment : Environment} {arguments : List String} {file : String}
  {overrides : Overrides}

/-- A command with a configuration to run with is run with it, after the configuration is read. -/
theorem run_withConfig (files : Files (StateM σ)) (state : σ) (command : Config → StateM σ Outcome)
    (runs : overrides.dump = false)
    (prepared : prepare ((loadConfig files overrides.configFile).run state).1 overrides
      = .ok config)
    : (withConfig files overrides command).run state
      = (command config).run ((loadConfig files overrides.configFile).run state).2 := by
  rcases found : (loadConfig files overrides.configFile).run state with ⟨loaded, after⟩
  rw [found] at prepared
  rw [withConfig, StateT.run_bind, found]
  dsimp only [bind] at prepared ⊢
  rw [prepared, runs]
  rfl

/-- With a configuration to run with, a query command ends with the reply on its file. -/
theorem run_query (files : Files (StateM σ)) (state : σ) (ids : Nat → String)
    (asked : parse environment arguments = .ok ⟨.query file parameters idProperty, overrides⟩)
    (runs : overrides.dump = false)
    (prepared : prepare ((loadConfig files overrides.configFile).run state).1 overrides
      = .ok config)
    : ((run files ids environment arguments).run state).1
      = .ofReply? (queryReply? config ids
          ((files.read file).run ((loadConfig files overrides.configFile).run state).2).1
          parameters idProperty) := by
  rw [run, asked]
  dsimp only [Invocation.run]
  rw [run_withConfig files state _ runs prepared]
  rfl

/-- A query command with a configuration to run with goes well exactly where the records of its file
give an answer, and it prints that answer. It stops exactly where sorting them comes to nothing.
Otherwise it prints nothing and reports a failure, for which the file is at fault if it has no text
or the text is no value, and else the request. The first text that is drawn for an id does not start
with the store's mark, and the value of the file is read back from its text.
-/
theorem run_query_isAnswered (files : Files (StateM σ)) (state : σ)
    (unmarked : ¬ Endpoint.idMark <+: (ids 0).toList)
    (asked : parse environment arguments = .ok ⟨.query file parameters idProperty, overrides⟩)
    (runs : overrides.dump = false)
    (prepared : prepare ((loadConfig files overrides.configFile).run state).1 overrides
      = .ok config)
    (back : ReadsBack
      ((files.read file).run ((loadConfig files overrides.configFile).run state).2).1)
    : let content :=
        ((files.read file).run ((loadConfig files overrides.configFile).run state).2).1
      let outcome := ((run files ids environment arguments).run state).1
      (outcome.exitCode = 0 ↔ ∃ result, IsAnswered config content parameters idProperty result)
      ∧ (∀ result, IsAnswered config content parameters idProperty result
        → outcome = .success (result.toJson.renderPretty ++ "\n"))
      ∧ (outcome = .stopped ↔ IsStopped config content parameters idProperty)
      ∧ ((¬ ∃ result, IsAnswered config content parameters idProperty result)
        → ¬ IsStopped config content parameters idProperty
        → ∃ reply, outcome = .failure (.reply reply)
          ∧ (reply.status = 500 ↔ ¬ HoldsValue content)
          ∧ (reply.status = 400 ↔ HoldsValue content)) := by
  intro content outcome
  have told : outcome = outcomeOf (computed config ids content parameters idProperty) :=
    (run_query files state ids asked runs prepared).trans (outcome_eq config unmarked _ _ _)
  rw [told]
  obtain ⟨exitCode, success, stopped, failure⟩ :=
    isOutcome config ids parameters idProperty back
  exact ⟨exitCode, success, stopped, failure⟩

/-- A folder with a file of two records. -/
def twoRecords : Folder :=
  ⟨[("data.json", "[\x7b\"id\":\"a\"\x7d,\x7b\"id\":\"b\"\x7d]")]⟩

theorem run_query_isAnswered_firstOfTwo
    : let arguments := ["query", "data.json", "-p", "top=1"]
      let overrides : Overrides := ⟨none, none, none, [], false⟩
      ¬ Endpoint.idMark <+: (Store.countedId 0).toList
      ∧ parse ⟨none, none, none⟩ arguments = .ok ⟨.query "data.json" "top=1" none, overrides⟩
      ∧ prepare ((loadConfig Folder.access none).run twoRecords).1 overrides = .ok .standard
      ∧ ReadsBack (twoRecords.read "data.json")
      ∧ ∃ result, IsAnswered .standard (twoRecords.read "data.json") "top=1" none result
        ∧ ((run Folder.access Store.countedId ⟨none, none, none⟩ arguments).run twoRecords).1
          = .success (result.toJson.renderPretty ++ "\n") := by
  intro arguments overrides
  have unmarked := Store.isIdSupply_countedId.unmarked 0
  have asked : parse ⟨none, none, none⟩ arguments
      = .ok ⟨.query "data.json" "top=1" none, overrides⟩ := by
    rfl
  have prepared : prepare ((loadConfig Folder.access none).run twoRecords).1 overrides
      = .ok .standard := by
    rfl
  have back : ReadsBack (twoRecords.read "data.json") := by
    have read : Json.read? "[\x7b\"id\":\"a\"\x7d,\x7b\"id\":\"b\"\x7d]"
        = some (.array [.object [("id", .string "a")], .object [("id", .string "b")]]) := by
      decide +kernel
    rintro text value ⟨⟩ read'
    cases read.symm.trans read'
    simp [Json.ReadsBack, Json.ItemsReadBack, Json.FieldsReadBack]
  have answered := run_query_isAnswered Folder.access twoRecords unmarked asked rfl prepared back
  have goesWell : ((run Folder.access Store.countedId ⟨none, none, none⟩ arguments).run
      twoRecords).1.exitCode = 0 := by
    decide +kernel
  obtain ⟨result, found⟩ := answered.1.mp goesWell
  exact ⟨unmarked, asked, prepared, back, result, found, answered.2.1 result found⟩

/-- A folder with a file of records whose order by their numbers is not transitive. -/
def mixedFolder : Folder :=
  ⟨[("data.json", (Json.array Query.mixedRecords).render)]⟩

theorem readsBack_mixedFolder : ReadsBack (mixedFolder.read "data.json") := by
  intro text value has read
  have content : mixedFolder.read "data.json" = .ok (Json.array Query.mixedRecords).render := rfl
  obtain rfl := Except.ok.inj (content.symm.trans has)
  obtain rfl := Option.some.inj (Service.read?_render_mixedRecords.symm.trans read)
  exact Service.readsBack_mixedRecords

/-- The query that sorts these records by their numbers is ready to be run on the file. -/
theorem isReady_mixedFolder
    : IsReady .standard (mixedFolder.read "data.json") "orderby=n" none Query.mixedRecords
        ⟨"id", rfl, by decide⟩ Query.mixedQuery where
  records := ⟨_, _, rfl, Service.read?_render_mixedRecords, rfl⟩
  path := rfl
  query := Service.ofString_mixedQuery

/-- Sorting these records by their numbers stops the program. -/
theorem not_run_query_exits
    : ¬ ∀ (folder : Folder) (ids : Nat → String) (environment : Environment)
        (arguments : List String) (file parameters : String) (idProperty : Option String)
        (overrides : Overrides) (config : Config), ¬ Endpoint.idMark <+: (ids 0).toList
        → parse environment arguments = .ok ⟨.query file parameters idProperty, overrides⟩
        → overrides.dump = false
        → prepare ((loadConfig Folder.access overrides.configFile).run folder).1 overrides
          = .ok config
        → ReadsBack (folder.read file)
        → ((run Folder.access ids environment arguments).run folder).1.exitCode = 0
          ∨ ((run Folder.access ids environment arguments).run folder).1.exitCode = 1 := by
  intro claimed
  let overrides : Overrides := ⟨none, none, none, [], false⟩
  have unmarked := Store.isIdSupply_countedId.unmarked 0
  have asked : parse ⟨none, none, none⟩ ["query", "data.json", "-p", "orderby=n"]
      = .ok ⟨.query "data.json" "orderby=n" none, overrides⟩ := by
    rfl
  have prepared : prepare ((loadConfig Folder.access none).run mixedFolder).1 overrides
      = .ok .standard := by
    rfl
  have stopped : ((run Folder.access Store.countedId ⟨none, none, none⟩
      ["query", "data.json", "-p", "orderby=n"]).run mixedFolder).1 = .stopped := by
    rw [run_query Folder.access mixedFolder Store.countedId asked rfl prepared]
    refine (outcome_eq .standard unmarked _ _ _).trans ?_
    refine (congrArg outcomeOf (isReady_mixedFolder.computed_eq readsBack_mixedFolder)).trans ?_
    rw [Query.run_mixedQuery]
    rfl
  rcases claimed mixedFolder Store.countedId _ _ _ _ _ _ _ unmarked asked rfl prepared
    readsBack_mixedFolder with success | failure
  · rw [stopped] at success
    cases success
  · rw [stopped] at failure
    cases failure

end CommandLine

end RecordQuery
