import RecordQuery.Proofs.Json.RoundTrip
import RecordQuery.Proofs.Query.BoundQueries
import RecordQuery.Proofs.Query.QueryStrings
import RecordQuery.Proofs.Service.Results
import RecordQuery.Proofs.Store.Ids

/-! Runs of operations on endpoints. An endpoint is sound when its text is a collection and its id
property is a path. What a request gives is checked to be so before it is stored, so all endpoints
of a run are sound, and no operation fails but for what its request asks. Only a query whose records
cannot be sorted stops.
-/

namespace RecordQuery

/-- An endpoint whose text is a collection and whose id property is a path. -/
structure Endpoint.IsSound (endpoint : Endpoint) : Prop where
  raw : ∃ records, Collection.parse endpoint.raw = .ok records
  idProperty : ∃ path, PropertyPath.parse endpoint.idProperty = .ok path

/-- A change that gives a collection and a path, as far as it gives them. -/
structure EndpointUpdate.IsSound (change : EndpointUpdate) : Prop where
  raw : ∀ text ∈ change.raw, ∃ records, Collection.parse text = .ok records
  idProperty : ∀ text ∈ change.idProperty, ∃ path, PropertyPath.parse text = .ok path

/-- A store of sound endpoints. -/
def Store.IsSound (store : Store) : Prop :=
  ∀ endpoint ∈ store.endpoints, endpoint.IsSound

/-- A failure for which the request is at fault, or which tells that there is no such endpoint. -/
def Failure.IsOfRequest (failure : Failure) : Prop :=
  failure.kind.status = 400 ∨ failure.kind.status = 404

namespace Service

/-- An operation on endpoints, with all that a client gives for it. -/
inductive Operation where
  | list
  | create (idProperty : Option String) (raw : Json)
  | query (id text : String)
  | update (id : String) (body : Json)
  | delete (id : String)
  | schema (id : String)

namespace Operation

/-- What an operation does, with the value that is told of it. -/
def action (settings : QuerySettings) : Operation → HaltingAction Json
  | .list => do return .array ((← Service.list.halting).map Endpoint.toJson)
  | .create idProperty raw => do
    return (← (Service.create settings idProperty raw).halting).toJson
  | .query id text => do return (← Service.query settings id text).toJson
  | .update id body => do return (← (Service.update id body).halting).toJson
  | .delete id => do return (← (Service.delete id).halting).toJson
  | .schema id => (Service.schema id).halting

/-- The values that an operation gives for collections all are of some kind. -/
def GivesOnly (property : Json → Prop) : Operation → Prop
  | .create _ raw => property raw
  | .update _ (.object fields) => ∀ raw, ("raw", raw) ∈ fields → property raw
  | _ => True

/-- A collection that an operation gives as a value is not nested more deeply than one may be in a
text.
-/
def IsShallow : Operation → Prop :=
  GivesOnly fun raw => Json.nesting raw ≤ Json.defaultNesting

/-- The numbers of a collection that an operation gives as a value are read back from their texts. -/
def ReadsBack : Operation → Prop :=
  GivesOnly Json.ReadsBack

/-- A query stops: there is an endpoint for it, and a query that it gives, and sorting the records
that this query keeps comes to nothing.
-/
inductive Stops (settings : QuerySettings) (store : Store) : Operation → Prop
  | query {id text endpoint records path asked}
    (found : store.found (Endpoint.anyStoreId id) = .ok endpoint)
    (parsed : Collection.parse endpoint.raw = .ok records)
    (named : PropertyPath.parse endpoint.idProperty = .ok path)
    (bound : Query.ofString settings.pageDefaults text = .ok asked)
    (stops : asked.StopsSorting path.cursor records)
    : Stops settings store (.query id text)

end Operation

/-- The results of some operations, one after the other, and the store after them. One that stops is
the end of that operation only: whoever asks for the others may go on.
-/
def runAll (settings : QuerySettings) (store : Store)
    : List Operation → List (Except (Halt Failure) Json) × Store
  | [] => ([], store)
  | operation :: rest =>
    let (result, next) := store.perform (operation.action settings)
    let (results, last) := runAll settings next rest
    (result :: results, last)

-----------------------------------------------------------------------------------------
-- What operations come to
-----------------------------------------------------------------------------------------

theorem perform_action_list (settings : QuerySettings) (store : Store)
    : store.perform (Operation.list.action settings)
      = (.ok (.array ((store.endpoints.take store.firstPageSize.toNat).map fun endpoint =>
          endpoint.forClients.toJson)), store) := by
  rw [Operation.action, Store.perform_bind_pure, Store.perform_halting, perform_list]
  dsimp only [Except.mapError, Except.map]
  rw [List.map_map]
  rfl

theorem perform_action_create (settings : QuerySettings) (store : Store)
    (idProperty : Option String) (raw : Json)
    : store.perform ((Operation.create idProperty raw).action settings)
      = match accept settings idProperty raw with
        | .ok new => (.ok (store.issue new).forClients.toJson, store.added new)
        | .error failure => (.error (.told failure), store) := by
  rw [Operation.action, Store.perform_bind_pure, Store.perform_halting, perform_create]
  cases accept settings idProperty raw with
  | ok new => rfl
  | error failure => rfl

theorem perform_action_query (settings : QuerySettings) (store : Store) (id text : String)
    : store.perform ((Operation.query id text).action settings)
      = match store.found (Endpoint.anyStoreId id) with
        | .ok endpoint => ((answer settings endpoint text).map QueryResult.toJson, store)
        | .error failure => (.error (.told failure), store) := by
  rw [Operation.action, Store.perform_bind_pure, perform_query]
  cases store.found (Endpoint.anyStoreId id) with
  | ok endpoint => rfl
  | error failure => rfl

theorem perform_action_update (settings : QuerySettings) (store : Store) (id : String) (body : Json)
    : store.perform ((Operation.update id body).action settings)
      = match updateOf id body with
        | .ok change =>
          match store.found change.id with
          | .ok endpoint => (.ok (change.apply endpoint).forClients.toJson, store.changed change)
          | .error failure => (.error (.told failure), store)
        | .error failure => (.error (.told failure), store) := by
  rw [Operation.action, Store.perform_bind_pure, Store.perform_halting, perform_update]
  cases updateOf id body with
  | error failure => rfl
  | ok change =>
      dsimp only
      cases present : store.found change.id with
      | ok endpoint => rfl
      | error failure =>
          dsimp only
          rw [Store.changed_of_not_found present]
          rfl

theorem perform_action_delete (settings : QuerySettings) (store : Store) (id : String)
    : store.perform ((Operation.delete id).action settings)
      = match store.found (Endpoint.anyStoreId id) with
        | .ok endpoint =>
          (.ok endpoint.forClients.toJson, store.without (Endpoint.anyStoreId id))
        | .error failure => (.error (.told failure), store) := by
  rw [Operation.action, Store.perform_bind_pure, Store.perform_halting, perform_delete]
  cases present : store.found (Endpoint.anyStoreId id) with
  | ok endpoint => rfl
  | error failure =>
      dsimp only
      rw [Store.without_of_not_found present]
      rfl

theorem perform_action_schema (settings : QuerySettings) (store : Store) (id : String)
    : store.perform ((Operation.schema id).action settings)
      = match store.found (Endpoint.anyStoreId id) with
        | .ok endpoint =>
          (((Collection.parse endpoint.raw).map (Schema.infer schemaTitle)).mapError .told, store)
        | .error failure => (.error (.told failure), store) := by
  rw [Operation.action, Store.perform_halting, perform_schema]
  cases store.found (Endpoint.anyStoreId id) with
  | ok endpoint => rfl
  | error failure => rfl

/-- An operation that only reads. -/
def Operation.IsIdle : Operation → Prop
  | .list | .query .. | .schema _ => True
  | _ => False

/-- What an operation comes to and the store after it: it does not write, it comes to nothing, or it
does what it is for.
-/
inductive Does (settings : QuerySettings) (store : Store)
    : Operation → Except (Halt Failure) Json → Store → Prop
  | idle {operation result} (idle : operation.IsIdle) : Does settings store operation result store
  | failed {operation halt} : Does settings store operation (.error halt) store
  | added {idProperty raw new} (accepted : accept settings idProperty raw = .ok new)
    : Does settings store (.create idProperty raw) (.ok (store.issue new).forClients.toJson)
        (store.added new)
  | changed {id body change endpoint} (accepted : updateOf id body = .ok change)
    (present : store.found change.id = .ok endpoint)
    : Does settings store (.update id body) (.ok (change.apply endpoint).forClients.toJson)
        (store.changed change)
  | removed {id endpoint} (present : store.found (Endpoint.anyStoreId id) = .ok endpoint)
    : Does settings store (.delete id) (.ok endpoint.forClients.toJson)
        (store.without (Endpoint.anyStoreId id))

theorem does_perform (settings : QuerySettings) (store : Store) (operation : Operation)
    : Does settings store operation (store.perform (operation.action settings)).1
        (store.perform (operation.action settings)).2 := by
  cases operation with
  | list => exact .idle trivial
  | create idProperty raw =>
      rw [perform_action_create]
      cases accepted : accept settings idProperty raw with
      | error failure => exact .failed
      | ok new => exact .added accepted
  | query id text =>
      rw [perform_action_query]
      cases store.found (Endpoint.anyStoreId id) with
      | error failure => exact .failed
      | ok endpoint => exact .idle trivial
  | update id body =>
      rw [perform_action_update]
      cases accepted : updateOf id body with
      | error failure => exact .failed
      | ok change =>
          dsimp only
          cases present : store.found change.id with
          | error failure => exact .failed
          | ok endpoint => exact .changed accepted present
  | delete id =>
      rw [perform_action_delete]
      cases present : store.found (Endpoint.anyStoreId id) with
      | error failure => exact .failed
      | ok endpoint => exact .removed present
  | schema id =>
      rw [perform_action_schema]
      cases store.found (Endpoint.anyStoreId id) with
      | error failure => exact .failed
      | ok endpoint => exact .idle trivial

variable {settings : QuerySettings} {store : Store}

-----------------------------------------------------------------------------------------
-- What is checked before it is stored
-----------------------------------------------------------------------------------------

/-- An accepted collection is stored as the text of one. -/
theorem parse_of_text {raw : Json} {text : String} (accepted : Collection.text raw = .ok text)
    (shallow : Json.nesting raw ≤ Json.defaultNesting) (back : raw.ReadsBack)
    : ∃ records, Collection.parse text = .ok records := by
  unfold Collection.text at accepted
  split at accepted
  · next records =>
      cases accepted
      have read := Json.read?_render back shallow
      exact ⟨_, by rw [Collection.parse, read, Json.canonical]⟩
  · next given =>
      split at accepted
      · next records read =>
          cases accepted
          exact ⟨records, by rw [Collection.parse, read]⟩
      · cases accepted
      · cases accepted
  · cases accepted

theorem parse_of_check {text : String} {path : PropertyPath}
    (checked : PropertyPath.check text = .ok path)
    : PropertyPath.parse text = .ok path := by
  unfold PropertyPath.check at checked
  cases parsed : PropertyPath.parse text with
  | ok path' =>
      rw [parsed] at checked
      cases checked
      rfl
  | error error =>
      rw [parsed] at checked
      cases checked

/-- A collection that is accepted makes a sound endpoint. -/
theorem isSound_issue {idProperty : Option String} {raw : Json} {new : NewEndpoint}
    (accepted : accept settings idProperty raw = .ok new)
    (shallow : Json.nesting raw ≤ Json.defaultNesting) (back : raw.ReadsBack)
    : (store.issue new).IsSound := by
  obtain ⟨text, given, accepted⟩ := exists_of_bind_eq_ok accepted
  obtain ⟨path, checked, accepted⟩ := exists_of_bind_eq_ok accepted
  cases accepted
  exact ⟨parse_of_text given shallow back, path, parse_of_check checked⟩

/-- A field that is left was there. -/
theorem mem_of_mem_removeField {name : String} {fields : List Json.Field} {field : Json.Field}
    (member : field ∈ Json.removeField name fields)
    : field ∈ fields := by
  unfold Json.removeField at member
  split at member
  · next place last _ ends =>
      rcases List.mem_or_eq_of_mem_set (List.dropLast_subset _ member) with kept | rfl
      · exact kept
      · exact List.mem_of_getLast? ends
  · exact member

theorem status_of_idPropertyField_error {fields : List Json.Field} {failure : Failure}
    (failed : idPropertyField fields = .error failure)
    : failure.kind.status = 400 := by
  unfold idPropertyField at failed
  split at failed
  · cases failed
  · rw [PropertyPath.kind_of_check_error (eq_error_of_map failed)]
    rfl
  · cases failed
    rfl

/-- The path that a change gives is one. -/
theorem parse_of_idPropertyField {fields : List Json.Field} {given : Option String}
    (accepted : idPropertyField fields = .ok given)
    : ∀ text ∈ given, ∃ path, PropertyPath.parse text = .ok path := by
  unfold idPropertyField at accepted
  split at accepted
  · cases accepted
    exact fun text none => absurd none (Option.not_mem_none text)
  · obtain ⟨path, checked, rfl⟩ := exists_of_map_eq_ok accepted
    rintro _ ⟨⟩
    exact ⟨path, parse_of_check checked⟩
  · cases accepted

/-- The text of the collection that a change gives, if it gives one. -/
def givenText (fields : List Json.Field) : Except Failure (Option String) :=
  match Json.field? "raw" fields with
  | some raw => (Collection.text raw).map some
  | none => .ok none

theorem status_of_givenText_error {fields : List Json.Field} {failure : Failure}
    (failed : givenText fields = .error failure)
    : failure.kind.status = 400 := by
  unfold givenText at failed
  split at failed
  · rw [Collection.kind_of_text_error (eq_error_of_map failed)]
    rfl
  · cases failed

/-- The collection that a change gives is one. -/
theorem parse_of_givenText {fields : List Json.Field} {given : Option String}
    (accepted : givenText fields = .ok given)
    (shallow : ∀ raw, ("raw", raw) ∈ fields → Json.nesting raw ≤ Json.defaultNesting)
    (back : ∀ raw, ("raw", raw) ∈ fields → raw.ReadsBack)
    : ∀ text ∈ given, ∃ records, Collection.parse text = .ok records := by
  unfold givenText at accepted
  split at accepted
  · next raw found =>
      obtain ⟨text, written, rfl⟩ := exists_of_map_eq_ok accepted
      rintro _ ⟨⟩
      have member := Json.mem_of_field? found
      exact parse_of_text written (shallow raw member) (back raw member)
  · cases accepted
    exact fun text none => absurd none (Option.not_mem_none text)

/-- A change is asked for by an object, which is taken apart from one field to the next. -/
theorem updateOf_object (id : String) (fields : List Json.Field)
    : updateOf id (.object fields) = (do
        let fields := Json.removeField "id" fields
        let idProperty ← idPropertyField fields
        let fields := Json.removeField "idPropName" fields
        let raw ← givenText fields
        match Json.removeField "raw" fields with
        | [] => .ok ⟨Endpoint.anyStoreId id, idProperty, raw⟩
        | (name, _) :: _ => .error ⟨.invalidRequest, "unknown endpoint field: " ++ name⟩) := by
  unfold updateOf givenText
  dsimp only
  cases idPropertyField (Json.removeField "id" fields) with
  | error failure => rfl
  | ok idProperty =>
      cases Json.field? "raw" (Json.removeField "idPropName" (Json.removeField "id" fields)) with
      | none => rfl
      | some raw =>
          cases given : Collection.text raw with
          | ok text =>
              dsimp only [bind, Except.bind]
              rw [given]
              rfl
          | error failure =>
              dsimp only [bind, Except.bind]
              rw [given]
              rfl

/-- A change that is refused is the request's fault. -/
theorem status_of_updateOf_error {id : String} {body : Json} {failure : Failure}
    (failed : updateOf id body = .error failure)
    : failure.kind.status = 400 := by
  cases body with
  | object fields =>
      rw [updateOf_object] at failed
      rcases eq_error_of_bind failed with failed | ⟨idProperty, _, failed⟩
      · exact status_of_idPropertyField_error failed
      rcases eq_error_of_bind failed with failed | ⟨raw, _, failed⟩
      · exact status_of_givenText_error failed
      split at failed
      · cases failed
      · cases failed
        rfl
  | null =>
      cases failed
      rfl
  | bool truth =>
      cases failed
      rfl
  | number n =>
      cases failed
      rfl
  | string s =>
      cases failed
      rfl
  | array items =>
      cases failed
      rfl

/-- A change that is accepted gives a collection and a path, as far as it gives them. -/
theorem isSound_updateOf {id : String} {body : Json} {change : EndpointUpdate}
    (accepted : updateOf id body = .ok change) (shallow : (Operation.update id body).IsShallow)
    (back : (Operation.update id body).ReadsBack)
    : change.IsSound := by
  cases body with
  | object fields =>
      rw [updateOf_object] at accepted
      obtain ⟨idProperty, named, accepted⟩ := exists_of_bind_eq_ok accepted
      obtain ⟨raw, given, accepted⟩ := exists_of_bind_eq_ok accepted
      split at accepted
      · cases accepted
        have left : ∀ value, ("raw", value)
            ∈ Json.removeField "idPropName" (Json.removeField "id" fields)
            → ("raw", value) ∈ fields :=
          fun value member => mem_of_mem_removeField (mem_of_mem_removeField member)
        exact ⟨parse_of_givenText given (fun value member => shallow value (left value member))
          (fun value member => back value (left value member)), parse_of_idPropertyField named⟩
      · cases accepted
  | null => cases accepted
  | bool truth => cases accepted
  | number n => cases accepted
  | string s => cases accepted
  | array items => cases accepted

-----------------------------------------------------------------------------------------
-- One operation
-----------------------------------------------------------------------------------------

/-- A sound change keeps an endpoint sound. -/
theorem isSound_apply {change : EndpointUpdate} {endpoint : Endpoint} (given : change.IsSound)
    (sound : endpoint.IsSound)
    : (change.apply endpoint).IsSound := by
  constructor
  case raw =>
    cases found : change.raw with
    | none => simpa [EndpointUpdate.apply, found] using sound.raw
    | some text => simpa [EndpointUpdate.apply, found] using given.raw text found
  case idProperty =>
    cases found : change.idProperty with
    | none => simpa [EndpointUpdate.apply, found] using sound.idProperty
    | some text => simpa [EndpointUpdate.apply, found] using given.idProperty text found

theorem isSound_changed {change : EndpointUpdate} (given : change.IsSound) (sound : store.IsSound)
    : (store.changed change).IsSound := by
  intro endpoint member
  unfold Store.changed at member
  split at member
  · next place old _ present =>
      rcases List.mem_or_eq_of_mem_set member with kept | rfl
      · exact sound endpoint kept
      · exact isSound_apply given (sound old (Store.mem_of_found present).1)
  · exact sound endpoint member

/-- What an operation comes to: a result, a failure for which the request is at fault, or a stop
exactly where there may be one.
-/
inductive IsReply (stops : Prop) : Except (Halt Failure) α → Prop
  | ok {value} (goesOn : ¬ stops) : IsReply stops (.ok value)
  | told {failure} (goesOn : ¬ stops) (atFault : failure.IsOfRequest)
    : IsReply stops (.error (.told failure))
  | stopped (cause : stops) : IsReply stops (.error .stopped)

theorem IsReply.map {stops : Prop} {result : Except (Halt Failure) α}
    (reply : IsReply stops result) (change : α → β)
    : IsReply stops (result.map change) := by
  cases reply with
  | ok goesOn => exact .ok goesOn
  | told goesOn atFault => exact .told goesOn atFault
  | stopped cause => exact .stopped cause

theorem IsReply.stopped_iff {stops : Prop} {result : Except (Halt Failure) α}
    (reply : IsReply stops result)
    : result = .error .stopped ↔ stops := by
  cases reply with
  | ok goesOn => exact ⟨nofun, fun stops => absurd stops goesOn⟩
  | told goesOn atFault => exact ⟨nofun, fun stops => absurd stops goesOn⟩
  | stopped cause => exact ⟨fun _ => cause, fun _ => rfl⟩

/-- What does not stop has a result or a failure of the request. -/
theorem IsReply.resolve {stops : Prop} {result : Except (Halt Failure) α}
    (reply : IsReply stops result) (goesOn : result ≠ .error .stopped)
    : (∃ value, result = .ok value)
      ∨ ∃ failure, result = .error (.told failure) ∧ failure.IsOfRequest := by
  cases reply with
  | ok _ => exact .inl ⟨_, rfl⟩
  | told _ atFault => exact .inr ⟨_, rfl, atFault⟩
  | stopped _ => exact absurd rfl goesOn

theorem isOfRequest_of_not_found {id : String} {failure : Failure}
    (absent : store.found id = .error failure)
    : failure.IsOfRequest := by
  rw [(Store.eq_of_not_found absent).1]
  exact .inr rfl

/-- A query on the records and the path of an endpoint fails for what it asks only. -/
theorem isReply_answer {endpoint : Endpoint} {records : List Json} {path : PropertyPath}
    {id : String}
    (found : store.found (Endpoint.anyStoreId id) = .ok endpoint)
    (parsed : Collection.parse endpoint.raw = .ok records)
    (named : PropertyPath.parse endpoint.idProperty = .ok path) (text : String)
    : IsReply ((Operation.query id text).Stops settings store) (answer settings endpoint text) := by
  have stops_iff {asked : Query} (bound : Query.ofString settings.pageDefaults text = .ok asked)
      : (Operation.query id text).Stops settings store
        ↔ asked.run path.cursor records = .error .stopped := by
    rw [Query.run_eq_stopped_iff_stopsSorting]
    constructor
    · rintro ⟨found', parsed', named', bound', stops⟩
      cases found.symm.trans found'
      cases parsed.symm.trans parsed'
      cases named.symm.trans named'
      cases bound.symm.trans bound'
      exact stops
    · exact .query found parsed named bound
  rw [answer_eq parsed named, Query.answer]
  cases bound : Query.ofString settings.pageDefaults text with
  | error error =>
      refine .told ?_ (.inl (Failure.status_ofQueryError error))
      rintro ⟨_, _, _, bound', _⟩
      cases bound.symm.trans bound'
  | ok asked =>
      have stops := stops_iff bound
      dsimp only [Except.mapError, bind, Except.bind]
      cases ran : asked.run path.cursor records with
      | ok result => exact .ok fun stopped => nomatch ran.symm.trans (stops.mp stopped)
      | error halt =>
          cases halt with
          | told error =>
              exact .told (fun stopped => nomatch ran.symm.trans (stops.mp stopped))
                (.inl (Failure.status_ofQueryError error))
          | stopped => exact .stopped (stops.mpr ran)

/-- What is done to a store of sound endpoints leaves sound endpoints. -/
theorem Does.isSound {operation : Operation} {result : Except (Halt Failure) Json} {next : Store}
    (does : Does settings store operation result next) (sound : store.IsSound)
    (shallow : operation.IsShallow) (back : operation.ReadsBack)
    : next.IsSound := by
  cases does with
  | idle | failed => exact sound
  | added accepted =>
      intro endpoint member
      rcases List.mem_append.mp member with kept | last
      · exact sound endpoint kept
      · rw [List.mem_singleton.mp last]
        exact isSound_issue accepted shallow back
  | changed accepted present => exact isSound_changed (isSound_updateOf accepted shallow back) sound
  | removed present => exact fun endpoint member => sound endpoint (List.mem_of_mem_eraseP member)

/-- An operation on sound endpoints gets a reply. -/
theorem isReply_perform_action (settings : QuerySettings) (operation : Operation)
    (sound : store.IsSound)
    : IsReply (operation.Stops settings store) (store.perform (operation.action settings)).1 := by
  cases operation with
  | list =>
      rw [perform_action_list]
      exact .ok nofun
  | create idProperty raw =>
      rw [perform_action_create]
      cases accepted : accept settings idProperty raw with
      | error failure => exact .told nofun (.inl (status_of_accept_error accepted))
      | ok new => exact .ok nofun
  | query id text =>
      rw [perform_action_query]
      cases found : store.found (Endpoint.anyStoreId id) with
      | error failure =>
          refine .told ?_ (isOfRequest_of_not_found found)
          rintro ⟨found', _⟩
          cases found.symm.trans found'
      | ok endpoint =>
          obtain ⟨⟨records, parsed⟩, path, named⟩ := sound endpoint (Store.mem_of_found found).1
          exact (isReply_answer found parsed named text).map _
  | update id body =>
      rw [perform_action_update]
      cases accepted : updateOf id body with
      | error failure => exact .told nofun (.inl (status_of_updateOf_error accepted))
      | ok change =>
          dsimp only
          cases found : store.found change.id with
          | error failure => exact .told nofun (isOfRequest_of_not_found found)
          | ok endpoint => exact .ok nofun
  | delete id =>
      rw [perform_action_delete]
      cases found : store.found (Endpoint.anyStoreId id) with
      | error failure => exact .told nofun (isOfRequest_of_not_found found)
      | ok endpoint => exact .ok nofun
  | schema id =>
      rw [perform_action_schema]
      cases found : store.found (Endpoint.anyStoreId id) with
      | error failure => exact .told nofun (isOfRequest_of_not_found found)
      | ok endpoint =>
          obtain ⟨records, parsed⟩ := (sound endpoint (Store.mem_of_found found).1).raw
          dsimp only
          rw [parsed]
          exact .ok nofun

-----------------------------------------------------------------------------------------
-- Operations in a row
-----------------------------------------------------------------------------------------

/-- A run leaves sound endpoints, by induction on the operations. -/
theorem isSound_runAll (settings : QuerySettings) {operations : List Operation}
    (sound : store.IsSound) (shallow : ∀ operation ∈ operations, operation.IsShallow)
    (back : ∀ operation ∈ operations, operation.ReadsBack)
    : (runAll settings store operations).2.IsSound := by
  induction operations generalizing store with
  | nil => exact sound
  | cons operation rest ih =>
      have next := (does_perform settings store operation).isSound sound
        (shallow operation List.mem_cons_self) (back operation List.mem_cons_self)
      exact ih next (fun other member => shallow other (List.mem_cons_of_mem _ member))
        (fun other member => back other (List.mem_cons_of_mem _ member))

/-- Where an operation of a run stands, there is its result on the store that those in front of it
leave, by induction on these.
-/
theorem getElem?_runAll (settings : QuerySettings) (store : Store) (before : List Operation)
    (operation : Operation) (after : List Operation)
    : (runAll settings store (before ++ operation :: after)).1[before.length]?
      = some ((runAll settings store before).2.perform (operation.action settings)).1 := by
  induction before generalizing store with
  | nil => rfl
  | cons first rest ih => exact ih _

theorem isSound_empty (firstPageSize : UInt64) (ids : Nat → String)
    : (Store.empty firstPageSize ids).IsSound :=
  fun _ none => nomatch none

/-- Whatever operations are done on a store that was empty, each endpoint that it has then is the
text of a collection with a path. Each operation has a result or a failure of its request, but for a
query that stops, for the records that it keeps cannot be sorted. The collections that are given as
values must not be nested more deeply than a text may be, and their numbers are read back.
-/
theorem runAll_empty_isSound (settings : QuerySettings) (firstPageSize : UInt64)
    (ids : Nat → String) (operations : List Operation)
    (shallow : ∀ operation ∈ operations, operation.IsShallow)
    (back : ∀ operation ∈ operations, operation.ReadsBack)
    : (∀ endpoint ∈ (runAll settings (.empty firstPageSize ids) operations).2.endpoints,
        (∃ records, Collection.parse endpoint.raw = .ok records)
        ∧ ∃ path, PropertyPath.parse endpoint.idProperty = .ok path)
      ∧ ∀ before operation after, operations = before ++ operation :: after
        → ∃ result,
          (runAll settings (.empty firstPageSize ids) operations).1[before.length]? = some result
          ∧ (result = .error .stopped
            ↔ operation.Stops settings (runAll settings (.empty firstPageSize ids) before).2)
          ∧ (result ≠ .error .stopped
            → (∃ body, result = .ok body)
              ∨ ∃ failure, result = .error (.told failure)
                ∧ (failure.kind.status = 400 ∨ failure.kind.status = 404)) := by
  have none := isSound_empty firstPageSize ids
  constructor
  · intro endpoint member
    have sound := isSound_runAll settings none shallow back endpoint member
    exact ⟨sound.raw, sound.idProperty⟩
  · rintro before operation after rfl
    rw [List.forall_mem_append, List.forall_mem_cons] at shallow back
    have sound := isSound_runAll settings none shallow.1 back.1
    have reply := isReply_perform_action settings operation sound
    exact ⟨_, getElem?_runAll settings _ before operation after, reply.stopped_iff, reply.resolve⟩

/-- A collection that is stored, and an operation of each other kind on it. -/
def eachOperation : List Operation :=
  let id := Store.countedId 0
  [.create none (.array [.object [("id", .string "a")]]), .list, .query id "top=1",
    .update id (.object [("raw", .string "[]")]), .schema id, .delete id]

theorem runAll_empty_isSound_each
    : (∀ operation ∈ eachOperation, operation.IsShallow ∧ operation.ReadsBack)
      ∧ (∀ endpoint ∈ (runAll .standard (.empty 100 Store.countedId) eachOperation).2.endpoints,
        (∃ records, Collection.parse endpoint.raw = .ok records)
        ∧ ∃ path, PropertyPath.parse endpoint.idProperty = .ok path)
      ∧ ∀ before operation after, eachOperation = before ++ operation :: after
        → ∃ body, (runAll .standard (.empty 100 Store.countedId) eachOperation).1[before.length]?
          = some (.ok body) := by
  have fits : ∀ operation ∈ eachOperation, operation.IsShallow ∧ operation.ReadsBack := by
    simp [eachOperation, Operation.IsShallow, Operation.ReadsBack, Operation.GivesOnly,
      Json.ReadsBack, Json.ItemsReadBack, Json.FieldsReadBack]
    decide
  have answered : ∀ result ∈ (runAll .standard (.empty 100 Store.countedId) eachOperation).1,
      result.toOption.isSome := by
    decide +kernel
  obtain ⟨sound, replies⟩ := runAll_empty_isSound .standard 100 Store.countedId eachOperation
    (fun operation member => (fits operation member).1)
    (fun operation member => (fits operation member).2)
  refine ⟨fits, sound, fun before operation after split => ?_⟩
  obtain ⟨result, done, _, _⟩ := replies before operation after split
  have told := answered result (List.mem_of_getElem? done)
  cases result with
  | ok body => exact ⟨body, done⟩
  | error halt => cases told

theorem readsBack_mixedRecords : (Json.array Query.mixedRecords).ReadsBack := by
  have numbers : ∀ n ∈ Query.mixedNumbers, n.ReadsBack := by
    simp only [Query.mixedNumbers, List.forall_mem_cons]
    refine ⟨Json.readsBack_int _ _, ?_, Json.readsBack_int _ _, List.forall_mem_nil _⟩
    rw [Number.ReadsBack]
    decide +kernel
  refine Json.itemsReadBack_iff.mpr fun record member => ?_
  obtain ⟨n, found, rfl⟩ := Query.exists_of_mem_mixedRecords member
  exact ⟨numbers n found, trivial⟩

theorem read?_render_mixedRecords
    : Json.read? (Json.array Query.mixedRecords).render = some (.array Query.mixedRecords) := by
  apply Json.read?_render_of_hasDistinctKeys
  case distinct =>
    refine Json.itemsHaveDistinctKeys_iff.mpr fun record member => ?_
    obtain ⟨n, _, rfl⟩ := Query.exists_of_mem_mixedRecords member
    simp [Json.HasDistinctKeys, Json.FieldsHaveDistinctKeys]
  case back => exact readsBack_mixedRecords
  case shallow => decide

theorem ofString_mixedQuery : Query.ofString .standard "orderby=n" = .ok Query.mixedQuery := by
  have decoded : FormEncoding.decode "orderby=n" = [("orderby", "n")] := by
    decide +kernel
  have unmarked : "orderby=n".toList.head? ≠ some '?' := by
    decide
  rw [Query.ofString_eq_ofPairs, if_neg unmarked, decoded, Query.ofPairs_mixedQuery]

/-- An endpoint with these records stops when they are sorted by their numbers. -/
theorem perform_query_mixedRecords {id : String} {endpoint : Endpoint} {path : PropertyPath}
    (found : store.found (Endpoint.anyStoreId id) = .ok endpoint)
    (parsed : Collection.parse endpoint.raw = .ok Query.mixedRecords)
    (named : PropertyPath.parse endpoint.idProperty = .ok path)
    : (store.perform ((Operation.query id "orderby=n").action .standard)).1
      = .error .stopped := by
  have standard : QuerySettings.standard.pageDefaults = .standard := rfl
  rw [perform_action_query, found]
  dsimp only
  rw [answer_eq parsed named, Query.answer, standard, ofString_mixedQuery]
  dsimp only [Except.mapError, bind, Except.bind]
  rw [Query.run_mixedQuery]
  rfl

/-- These records are stored and sorted by their numbers. -/
def mixedOperations : List Operation :=
  [.create none (.array Query.mixedRecords), .query (Store.countedId 0) "orderby=n"]

/-- Once they are stored, they are found under the first text that is drawn. -/
theorem exists_found_mixedRecords
    : ∃ endpoint path,
      (runAll .standard (.empty 100 Store.countedId)
          [.create none (.array Query.mixedRecords)]).2.found
            (Endpoint.anyStoreId (Store.countedId 0)) = .ok endpoint
      ∧ Collection.parse endpoint.raw = .ok Query.mixedRecords
      ∧ PropertyPath.parse endpoint.idProperty = .ok path := by
  -- the text itself is never needed, and is long
  obtain ⟨text, written⟩ : ∃ text, (Json.array Query.mixedRecords).render = text := ⟨_, rfl⟩
  have accepted : accept .standard none (.array Query.mixedRecords) = .ok ⟨"id", text⟩ := by
    rw [← written]
    rfl
  have created : (runAll .standard (.empty 100 Store.countedId)
      [.create none (.array Query.mixedRecords)]).2
      = (Store.empty 100 Store.countedId).added ⟨"id", text⟩ := by
    rw [runAll, perform_action_create, accepted]
    rfl
  have told : ((Store.empty 100 Store.countedId).issue ⟨"id", text⟩).forClients.id
      = Store.countedId 0 := by
    rw [Endpoint.forClients, Store.issue, Store.nextId, Store.publicId_storeId]
    rfl
  have parsed : Collection.parse text = .ok Query.mixedRecords := by
    rw [Collection.parse, ← written, read?_render_mixedRecords]
  have named : PropertyPath.parse "id" = .ok ⟨"id", rfl, by decide⟩ := rfl
  have found := (Store.isOrderly_empty 100 Store.isIdSupply_countedId.distinct).found_issue
    Store.isIdSupply_countedId.unmarked ⟨"id", text⟩
  rw [told] at found
  rw [created]
  exact ⟨_, _, found, parsed, named⟩

/-- The query stops. -/
theorem runAll_mixedOperations
    : .error .stopped ∈ (runAll .standard (.empty 100 Store.countedId) mixedOperations).1 := by
  obtain ⟨endpoint, path, found, parsed, named⟩ := exists_found_mixedRecords
  have done := getElem?_runAll .standard (.empty 100 Store.countedId)
    [.create none (.array Query.mixedRecords)] (.query (Store.countedId 0) "orderby=n") []
  rw [perform_query_mixedRecords found parsed named] at done
  exact List.mem_of_getElem? done

theorem fits_mixedOperations
    : (∀ operation ∈ mixedOperations, operation.IsShallow)
      ∧ ∀ operation ∈ mixedOperations, operation.ReadsBack := by
  simp only [mixedOperations, List.forall_mem_cons, Operation.IsShallow, Operation.GivesOnly]
  exact ⟨⟨by decide, trivial, List.forall_mem_nil _⟩,
    readsBack_mixedRecords, trivial, List.forall_mem_nil _⟩

theorem not_runAll_isAnswered
    : ¬ ∀ (settings : QuerySettings) (firstPageSize : UInt64) (ids : Nat → String)
        (operations : List Operation), (∀ operation ∈ operations, operation.IsShallow)
        → (∀ operation ∈ operations, operation.ReadsBack)
        → ∀ result ∈ (runAll settings (.empty firstPageSize ids) operations).1,
          (∃ body, result = .ok body)
          ∨ ∃ failure, result = .error (.told failure)
            ∧ (failure.kind.status = 400 ∨ failure.kind.status = 404) := by
  intro claimed
  obtain ⟨shallow, back⟩ := fits_mixedOperations
  rcases claimed .standard 100 Store.countedId mixedOperations shallow back _
    runAll_mixedOperations with ⟨body, same⟩ | ⟨failure, same, _⟩
  · cases same
  · cases same

end Service

end RecordQuery
