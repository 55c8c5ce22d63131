import RecordQuery.Proofs.Service.Runs
import RecordQuery.Proofs.Store.Ids

/-! What a query sees of a run of operations on endpoints: the records and the id property that were
given last for its endpoint, by the operations on it that had a result. What else was done in
between, on other endpoints or in vain, makes no difference.
-/

namespace RecordQuery

/-- The records that a value gives, as an array or as the text of one. -/
def Collection.given? : Json → Option (List Json)
  | .array records => some records
  | .string text =>
    match Json.read? text with
    | some (.array records) => some records
    | _ => none
  | _ => none

namespace Service

namespace Operation

/-- The values that an operation gives have no object with two fields of one name. -/
def HasDistinctKeys : Operation → Prop
  | .create _ raw => raw.HasDistinctKeys
  | .update _ body => body.HasDistinctKeys
  | _ => True

def isCreation : Operation → Bool
  | .create .. => true
  | _ => false

def isDeletion : Operation → Bool
  | .delete .. => true
  | _ => false

/-- The records that an operation gives for an endpoint. -/
def collection? : Operation → Option (List Json)
  | .create _ raw => Collection.given? raw
  | .update _ (.object fields) => (Json.field? "raw" fields).bind Collection.given?
  | _ => none

/-- The name of the id property that an operation gives for an endpoint; a new endpoint has the one
of the settings where none is given.
-/
def idProperty? (settings : QuerySettings) : Operation → Option String
  | .create idProperty _ => some (idProperty.getD settings.idProperty)
  | .update _ (.object fields) => (Json.field? "idPropName" fields).bind Json.text?
  | _ => none

end Operation

/-- An operation that was done, and what was told of it. -/
structure Entry where
  operation : Operation
  result : Except (Halt Failure) Json

/-- The entries of a run. -/
def journal (settings : QuerySettings) (store : Store) (operations : List Operation) : List Entry :=
  operations.zipWith Entry.mk (runAll settings store operations).1

/-- The store's id of the endpoint that was created, changed or deleted, where an entry tells so. -/
def Entry.on? : Entry → Option String
  | ⟨.create .., .ok body⟩ =>
    (Endpoint.ofJson? body).map (fun endpoint => Endpoint.anyStoreId endpoint.id)
  | ⟨.update id _, .ok _⟩ | ⟨.delete id, .ok _⟩ => some (Endpoint.anyStoreId id)
  | _ => none

/-- The endpoint with an id of the store was created and not deleted. -/
def IsLive (id : String) (entries : List Entry) : Prop :=
  (∃ entry ∈ entries, entry.operation.isCreation ∧ entry.on? = some id)
    ∧ ∀ entry ∈ entries, entry.operation.isDeletion → entry.on? ≠ some id

instance (id : String) (entries : List Entry) : Decidable (IsLive id entries) :=
  inferInstanceAs (Decidable (_ ∧ _))

/-- What was given last for the endpoint with an id of the store. -/
def lastGiven (given? : Operation → Option α) (id : String) (entries : List Entry) : Option α :=
  ((entries.filter (fun entry => entry.on? = some id)).filterMap
    (fun entry => given? entry.operation)).getLast?

-----------------------------------------------------------------------------------------
-- What operations give
-----------------------------------------------------------------------------------------

variable {settings : QuerySettings} {store : Store} {entries : List Entry}

/-- A collection that is accepted is stored as a text that is read as the records given. -/
theorem parse_of_given {raw : Json} {text : String} (accepted : Collection.text raw = .ok text)
    (shallow : Json.nesting raw ≤ Json.defaultNesting) (back : raw.ReadsBack)
    (distinct : raw.HasDistinctKeys)
    : ∃ records, Collection.given? raw = some records ∧ Collection.parse text = .ok records := by
  unfold Collection.text at accepted
  split at accepted
  · next records =>
      cases accepted
      have read := Json.read?_render_of_hasDistinctKeys distinct back shallow
      exact ⟨records, rfl, by rw [Collection.parse, read]⟩
  · next given =>
      split at accepted
      · next records read =>
          cases accepted
          exact ⟨records, by rw [Collection.given?, read], by rw [Collection.parse, read]⟩
      · cases accepted
      · cases accepted
  · cases accepted

theorem eq_of_idPropertyField {fields : List Json.Field} {given : Option String}
    (accepted : idPropertyField fields = .ok given)
    : given = (Json.field? "idPropName" fields).bind Json.text? := by
  unfold idPropertyField at accepted
  split at accepted
  · next absent =>
      cases accepted
      rw [absent]
      rfl
  · next name present =>
      obtain ⟨path, _, rfl⟩ := exists_of_map_eq_ok accepted
      rw [present]
      rfl
  · cases accepted

theorem map_parse_of_givenText {fields : List Json.Field} {given : Option String}
    (accepted : givenText fields = .ok given)
    (shallow : ∀ raw, ("raw", raw) ∈ fields → Json.nesting raw ≤ Json.defaultNesting)
    (back : ∀ raw, ("raw", raw) ∈ fields → raw.ReadsBack)
    (distinct : Json.FieldsHaveDistinctKeys fields)
    : given.map Collection.parse
      = ((Json.field? "raw" fields).bind Collection.given?).map .ok := by
  unfold givenText at accepted
  split at accepted
  · next raw present =>
      obtain ⟨text, written, rfl⟩ := exists_of_map_eq_ok accepted
      have member := Json.mem_of_field? present
      obtain ⟨records, found, read⟩ := parse_of_given written (shallow raw member) (back raw member)
        (Json.fieldsHaveDistinctKeys_iff.mp distinct _ member)
      rw [present, Option.bind_some, found]
      exact congrArg some read
  · next absent =>
      cases accepted
      rw [absent]
      rfl

/-- The change that an operation asks for gives what the operation gives: taking fields out of the
body, one after the other, does not change the others.
-/
theorem given_of_updateOf {id : String} {body : Json} {change : EndpointUpdate}
    (settings : QuerySettings) (accepted : updateOf id body = .ok change)
    (shallow : (Operation.update id body).IsShallow) (back : (Operation.update id body).ReadsBack)
    (distinct : body.HasDistinctKeys)
    : change.id = Endpoint.anyStoreId id
      ∧ change.idProperty = (Operation.update id body).idProperty? settings
      ∧ change.raw.map Collection.parse = (Operation.update id body).collection?.map .ok := by
  cases body with
  | object fields =>
      rw [updateOf_object] at accepted
      obtain ⟨idProperty, named, accepted⟩ := exists_of_bind_eq_ok accepted
      obtain ⟨raw, given, accepted⟩ := exists_of_bind_eq_ok accepted
      have keys := Json.nodup_removeField distinct.1 "id"
      have sameName : idPropertyField (Json.removeField "id" fields) = idPropertyField fields := by
        rw [idPropertyField, Json.field?_removeField_of_ne distinct.1 (by decide)]
        rfl
      have sameText : givenText (Json.removeField "idPropName" (Json.removeField "id" fields))
          = givenText fields := by
        rw [givenText, Json.field?_removeField_of_ne keys (by decide),
          Json.field?_removeField_of_ne distinct.1 (by decide)]
        rfl
      rw [sameName] at named
      rw [sameText] at given
      split at accepted
      · cases accepted
        exact ⟨rfl, eq_of_idPropertyField named,
          map_parse_of_givenText given shallow back distinct.2⟩
      · cases accepted
  | null => cases accepted
  | bool truth => cases accepted
  | number n => cases accepted
  | string s => cases accepted
  | array items => cases accepted

/-- A new endpoint has what its operation gives. -/
theorem given_of_accept {settings : QuerySettings} {idProperty : Option String} {raw : Json}
    {new : NewEndpoint} (accepted : accept settings idProperty raw = .ok new)
    (shallow : Json.nesting raw ≤ Json.defaultNesting) (back : raw.ReadsBack)
    (distinct : raw.HasDistinctKeys)
    : (Operation.create idProperty raw).idProperty? settings = some new.idProperty
      ∧ (Operation.create idProperty raw).collection?.map .ok
        = some (Collection.parse new.raw) := by
  obtain ⟨text, written, accepted⟩ := exists_of_bind_eq_ok accepted
  obtain ⟨path, _, accepted⟩ := exists_of_bind_eq_ok accepted
  cases accepted
  obtain ⟨records, found, read⟩ := parse_of_given written shallow back distinct
  refine ⟨rfl, ?_⟩
  rw [Operation.collection?, found, read]
  rfl

/-- An endpoint is read from its own value. -/
theorem ofJson?_toJson (endpoint : Endpoint) : Endpoint.ofJson? endpoint.toJson = some endpoint := by
  rfl

-----------------------------------------------------------------------------------------
-- One more entry
-----------------------------------------------------------------------------------------

theorem lastGiven_append (given? : Operation → Option α) (id : String) (entries : List Entry)
    (entry : Entry)
    : lastGiven given? id (entries ++ [entry])
      = if entry.on? = some id then (given? entry.operation).or (lastGiven given? id entries)
        else lastGiven given? id entries := by
  unfold lastGiven
  rw [List.filter_append, List.filterMap_append, List.getLast?_append]
  split
  · next same =>
      rw [List.filter_cons_of_pos (by simpa using same)]
      cases given : given? entry.operation with
      | none => simp only [List.filterMap_cons, given, List.filter_nil, List.filterMap_nil,
          List.getLast?_nil]
      | some value => simp only [List.filterMap_cons, given, List.filter_nil, List.filterMap_nil,
          List.getLast?_singleton, Option.some_or]
  · next other =>
      rw [List.filter_cons_of_neg (by simpa using other)]
      rfl

theorem isLive_append {id : String} {entry : Entry}
    : IsLive id (entries ++ [entry])
      ↔ ((entry.operation.isCreation ∧ entry.on? = some id)
          ∨ ∃ earlier ∈ entries, earlier.operation.isCreation ∧ earlier.on? = some id)
        ∧ (entry.operation.isDeletion → entry.on? ≠ some id)
        ∧ ∀ earlier ∈ entries, earlier.operation.isDeletion → earlier.on? ≠ some id := by
  unfold IsLive
  grind

/-- What is found under an id of the store, by the entries so far: the endpoint is live, with what
was given for it last, or it is not live.
-/
def IsTold (settings : QuerySettings) (entries : List Entry) (id : String)
    : Except Failure Endpoint → Prop
  | .ok endpoint =>
    IsLive id entries
      ∧ (lastGiven Operation.collection? id entries).map .ok = some (Collection.parse endpoint.raw)
      ∧ lastGiven (Operation.idProperty? settings) id entries = some endpoint.idProperty
  | .error _ => ¬ IsLive id entries

/-- A store that is as the entries so far tell. They are on ids that were issued, so the next id is
one that none of them is on.
-/
structure Follows (settings : QuerySettings) (entries : List Entry) (store : Store) : Prop where
  orderly : store.IsOrderly
  unmarked : ∀ number, ¬ Endpoint.idMark <+: (store.ids number).toList
  issued : ∀ entry ∈ entries, ∀ id ∈ entry.on?, store.HasIssued id
  told : ∀ id, IsTold settings entries id (store.found id)

/-- An entry that is not on an endpoint tells nothing of it. -/
theorem IsTold.other {entry : Entry} {id : String} {result : Except Failure Endpoint}
    (told : IsTold settings entries id result) (other : entry.on? ≠ some id)
    : IsTold settings (entries ++ [entry]) id result := by
  have live : IsLive id (entries ++ [entry]) ↔ IsLive id entries := by
    rw [isLive_append]
    exact ⟨fun ⟨now, _, kept⟩ => ⟨now.resolve_left fun created => other created.2, kept⟩,
      fun ⟨earlier, kept⟩ => ⟨.inr earlier, fun _ => other, kept⟩⟩
  cases result with
  | ok endpoint =>
      unfold IsTold
      rw [live, lastGiven_append, if_neg other, lastGiven_append, if_neg other]
      exact told
  | error failure => exact fun lives => told (live.mp lives)

/-- An entry that is on no endpoint tells nothing. -/
theorem Follows.unchanged (follows : Follows settings entries store) {entry : Entry}
    (none : entry.on? = none)
    : Follows settings (entries ++ [entry]) store := by
  constructor
  case orderly => exact follows.orderly
  case unmarked => exact follows.unmarked
  case issued =>
    intro other member id on
    rcases List.mem_append.mp member with before | now
    · exact follows.issued other before id on
    · rw [List.mem_singleton.mp now, none] at on
      cases on
  case told => exact fun id => (follows.told id).other (none ▸ nofun)

/-- An entry that is on one endpoint has to tell of that one only. -/
theorem Follows.append (follows : Follows settings entries store) {entry : Entry} {next : Store}
    {id : String} (orderly : next.IsOrderly) (supply : next.ids = store.ids)
    (on : entry.on? = some id)
    (issued : next.HasIssued id) (kept : ∀ other, store.HasIssued other → next.HasIssued other)
    (others : ∀ other, other ≠ id → next.found other = store.found other)
    (told : IsTold settings (entries ++ [entry]) id (next.found id))
    : Follows settings (entries ++ [entry]) next := by
  constructor
  case orderly => exact orderly
  case unmarked => exact supply ▸ follows.unmarked
  case issued =>
    intro other member touched also
    rcases List.mem_append.mp member with before | now
    · exact kept touched (follows.issued other before touched also)
    · rw [List.mem_singleton.mp now, on] at also
      cases also
      exact issued
  case told =>
    intro other
    by_cases same : other = id
    · exact same ▸ told
    · rw [others other same]
      refine (follows.told other).other ?_
      rw [on]
      exact fun equal => same (Option.some.inj equal).symm

-----------------------------------------------------------------------------------------
-- One operation
-----------------------------------------------------------------------------------------

/-- The entry of a creation is on the endpoint that was issued. -/
theorem on?_create (unmarked : ∀ number, ¬ Endpoint.idMark <+: (store.ids number).toList)
    (idProperty : Option String) (raw : Json) (new : NewEndpoint)
    : Entry.on? ⟨.create idProperty raw, .ok (store.issue new).forClients.toJson⟩
      = some (store.issue new).id := by
  have issued : (store.added new).HasIssued (store.issue new).id :=
    Store.hasIssued_added.mpr (.inr rfl)
  have supply : ∀ number, ¬ Endpoint.idMark <+: ((store.added new).ids number).toList := unmarked
  unfold Entry.on?
  simp only [ofJson?_toJson, Option.map_some, Endpoint.forClients,
    Store.anyStoreId_publicId supply issued]

/-- A new endpoint is live, and has what was given for it. -/
theorem Follows.create (follows : Follows settings entries store) {idProperty : Option String}
    {raw : Json} {new : NewEndpoint} (accepted : accept settings idProperty raw = .ok new)
    (shallow : Json.nesting raw ≤ Json.defaultNesting) (back : raw.ReadsBack)
    (distinct : raw.HasDistinctKeys)
    : Follows settings
        (entries ++ [⟨.create idProperty raw, .ok (store.issue new).forClients.toJson⟩])
        (store.added new) := by
  have on := on?_create follows.unmarked idProperty raw new
  obtain ⟨name, collection⟩ := given_of_accept accepted shallow back distinct
  refine follows.append (follows.orderly.added new) rfl on (Store.hasIssued_added.mpr (.inr rfl))
    (fun other before => Store.hasIssued_added.mpr (.inl before)) ?_ ?_
  · intro other differ
    rw [follows.orderly.found_added, if_neg differ]
  · rw [follows.orderly.found_added, if_pos rfl]
    refine ⟨isLive_append.mpr ⟨.inl ⟨rfl, on⟩, nofun, fun entry before _ touched => ?_⟩, ?_, ?_⟩
    · exact Store.not_hasIssued_issue follows.orderly.fresh new (follows.issued entry before _ touched)
    · obtain ⟨records, given, read⟩ := Option.map_eq_some_iff.mp collection
      rw [lastGiven_append, if_pos on, given, Option.some_or]
      exact congrArg some read
    · rw [lastGiven_append, if_pos on, name, Option.some_or]
      rfl

/-- An endpoint that is changed keeps what the change does not give. -/
theorem Follows.update (follows : Follows settings entries store) {id : String} {body : Json}
    {change : EndpointUpdate} {endpoint : Endpoint} (accepted : updateOf id body = .ok change)
    (present : store.found change.id = .ok endpoint)
    (shallow : (Operation.update id body).IsShallow) (back : (Operation.update id body).ReadsBack)
    (distinct : body.HasDistinctKeys) (answer : Json)
    : Follows settings (entries ++ [⟨.update id body, .ok answer⟩]) (store.changed change) := by
  obtain ⟨named, name, collection⟩ := given_of_updateOf settings accepted shallow back distinct
  have on : Entry.on? ⟨.update id body, .ok answer⟩ = some change.id := congrArg some named.symm
  obtain ⟨stored, same⟩ := Store.mem_of_found present
  have issued : store.HasIssued change.id := same ▸ follows.orderly.issued endpoint stored
  refine follows.append (follows.orderly.changed change) (Store.supply_changed store change) on
    (Store.hasIssued_changed.mpr issued) (fun other before => Store.hasIssued_changed.mpr before) ?_ ?_
  · intro other differ
    rw [follows.orderly.found_changed, if_neg differ]
  · have told := follows.told change.id
    rw [follows.orderly.found_changed, if_pos rfl, present]
    rw [present] at told
    obtain ⟨⟨created, kept⟩, records, idProperty⟩ := told
    refine ⟨isLive_append.mpr ⟨.inr created, nofun, kept⟩, ?_, ?_⟩
    · rw [lastGiven_append, if_pos on, EndpointUpdate.apply]
      dsimp only
      cases given : change.raw with
      | none =>
          rw [given] at collection
          rw [Option.map_eq_none_iff.mp collection.symm]
          exact records
      | some text =>
          rw [given] at collection
          obtain ⟨found, gives, read⟩ := Option.map_eq_some_iff.mp collection.symm
          rw [gives]
          exact congrArg some read
    · rw [lastGiven_append, if_pos on, ← name, EndpointUpdate.apply]
      cases change.idProperty with
      | none => exact idProperty
      | some given => rfl

/-- An endpoint that is deleted is not live any more. -/
theorem Follows.delete (follows : Follows settings entries store) {id : String} {endpoint : Endpoint}
    (present : store.found (Endpoint.anyStoreId id) = .ok endpoint) (answer : Json)
    : Follows settings (entries ++ [⟨.delete id, .ok answer⟩])
        (store.without (Endpoint.anyStoreId id)) := by
  obtain ⟨stored, same⟩ := Store.mem_of_found present
  have issued : store.HasIssued (Endpoint.anyStoreId id) :=
    same ▸ follows.orderly.issued endpoint stored
  refine follows.append (follows.orderly.without _) rfl rfl issued (fun other before => before) ?_ ?_
  · intro other differ
    rw [follows.orderly.found_without, if_neg differ]
  · rw [follows.orderly.found_without, if_pos rfl]
    exact fun live => (isLive_append.mp live).2.1 rfl rfl

theorem on?_of_isIdle {operation : Operation} (idle : operation.IsIdle)
    (result : Except (Halt Failure) Json)
    : Entry.on? ⟨operation, result⟩ = none := by
  cases operation with
  | list | query _ _ | schema _ => rfl
  | create _ _ | update _ _ | delete _ => cases idle

/-- An operation leaves a store that is as its entry tells. -/
theorem Follows.perform (follows : Follows settings entries store) (operation : Operation)
    (shallow : operation.IsShallow) (back : operation.ReadsBack)
    (distinct : operation.HasDistinctKeys)
    : Follows settings
        (entries ++ [⟨operation, (store.perform (operation.action settings)).1⟩])
        (store.perform (operation.action settings)).2 := by
  have does := does_perform settings store operation
  generalize (store.perform (operation.action settings)).1 = result at does ⊢
  generalize (store.perform (operation.action settings)).2 = next at does ⊢
  cases does with
  | idle idle => exact follows.unchanged (on?_of_isIdle idle _)
  | failed => exact follows.unchanged (by cases operation <;> rfl)
  | added accepted => exact follows.create accepted shallow back distinct
  | changed accepted present => exact follows.update accepted present shallow back distinct _
  | removed present => exact follows.delete present _

-----------------------------------------------------------------------------------------
-- Operations in a row
-----------------------------------------------------------------------------------------

/-- A run leaves a store that is as its entries tell, by induction on the operations. -/
theorem Follows.runAll (follows : Follows settings entries store) {operations : List Operation}
    (shallow : ∀ operation ∈ operations, operation.IsShallow)
    (back : ∀ operation ∈ operations, operation.ReadsBack)
    (distinct : ∀ operation ∈ operations, operation.HasDistinctKeys)
    : Follows settings (entries ++ journal settings store operations)
        (runAll settings store operations).2 := by
  induction operations generalizing store entries with
  | nil => exact (List.append_nil entries).symm ▸ follows
  | cons operation rest ih =>
      have next := follows.perform operation (shallow operation List.mem_cons_self)
        (back operation List.mem_cons_self) (distinct operation List.mem_cons_self)
      have last := ih next (fun other member => shallow other (List.mem_cons_of_mem _ member))
        (fun other member => back other (List.mem_cons_of_mem _ member))
        (fun other member => distinct other (List.mem_cons_of_mem _ member))
      rw [List.append_assoc] at last
      exact last

/-- After whatever operations on a store that was empty, a query on a live endpoint is answered from
the records and the id property that were given for it last; on any other id it fails, for there is
no such endpoint. No text is drawn twice for ids, and none starts with the store's mark. Collections
that are given as values must not be nested more deeply than a text may be, their numbers are read
back, and objects have distinct names.
-/
theorem query_answers_lastGiven (settings : QuerySettings) (firstPageSize : UInt64)
    {ids : Nat → String} (supply : Store.IsIdSupply ids) (operations : List Operation)
    (shallow : ∀ operation ∈ operations, operation.IsShallow)
    (back : ∀ operation ∈ operations, operation.ReadsBack)
    (distinct : ∀ operation ∈ operations, operation.HasDistinctKeys) (id text : String)
    : let entries := journal settings (.empty firstPageSize ids) operations
      let store := (runAll settings (.empty firstPageSize ids) operations).2
      (IsLive (Endpoint.anyStoreId id) entries
        → ∃ records name path,
          lastGiven Operation.collection? (Endpoint.anyStoreId id) entries = some records
          ∧ lastGiven (Operation.idProperty? settings) (Endpoint.anyStoreId id) entries = some name
          ∧ PropertyPath.parse name = .ok path
          ∧ store.perform (query settings id text)
            = ((Query.answer settings path records text).mapError (Halt.map .ofQueryError), store))
      ∧ (¬ IsLive (Endpoint.anyStoreId id) entries
        → store.perform (query settings id text)
          = (.error (.told ⟨.notFound, Endpoint.anyStoreId id⟩), store)) := by
  intro entries store
  have started : Follows settings [] (.empty firstPageSize ids) := {
    orderly := Store.isOrderly_empty firstPageSize supply.distinct
    unmarked := supply.unmarked
    issued := fun _ none => nomatch none
    told := fun _ live => nomatch live.1
  }
  have follows : Follows settings entries store := started.runAll shallow back distinct
  have sound : store.IsSound :=
    isSound_runAll settings (isSound_empty firstPageSize ids) shallow back
  have told := follows.told (Endpoint.anyStoreId id)
  rw [perform_query]
  cases present : store.found (Endpoint.anyStoreId id) with
  | ok endpoint =>
      rw [present] at told
      obtain ⟨live, collection, named⟩ := told
      obtain ⟨records, given, read⟩ := Option.map_eq_some_iff.mp collection
      obtain ⟨path, parsed⟩ := (sound endpoint (Store.mem_of_found present).1).idProperty
      refine ⟨fun _ => ⟨records, endpoint.idProperty, path, given, named, parsed, ?_⟩,
        fun dead => absurd live dead⟩
      rw [Except.mapError, Except.bind, answer_eq read.symm parsed]
  | error failure =>
      rw [present] at told
      refine ⟨fun live => absurd live told, fun _ => ?_⟩
      rw [(Store.eq_of_not_found present).1]
      rfl

/-- Two collections are stored, the first one is changed, once in vain, and the second is deleted. -/
def changedInBetween : List Operation :=
  let first := Store.countedId 0
  let second := Store.countedId 1
  [.create none (.array [.object [("id", .string "a")]]), .create (some "key") (.string "[]"),
    .update first (.object [("raw", .array [.object [("id", .string "b")]])]),
    .update first (.object [("raw", .null)]), .query second "top=1", .delete second, .list]

theorem query_answers_lastGiven_changedInBetween
    : let first := Store.countedId 0
      let entries := journal .standard (.empty 100 Store.countedId) changedInBetween
      let store := (runAll .standard (.empty 100 Store.countedId) changedInBetween).2
      Store.IsIdSupply Store.countedId
      ∧ (∀ operation ∈ changedInBetween,
        operation.IsShallow ∧ operation.ReadsBack ∧ operation.HasDistinctKeys)
      ∧ IsLive (Endpoint.anyStoreId first) entries
      ∧ ∃ records name path,
        lastGiven Operation.collection? (Endpoint.anyStoreId first) entries = some records
        ∧ lastGiven (Operation.idProperty? .standard) (Endpoint.anyStoreId first) entries = some name
        ∧ PropertyPath.parse name = .ok path
        ∧ store.perform (query .standard first "top=1")
          = ((Query.answer .standard path records "top=1").mapError (Halt.map .ofQueryError),
            store) := by
  intro first entries store
  have fits : ∀ operation ∈ changedInBetween,
      operation.IsShallow ∧ operation.ReadsBack ∧ operation.HasDistinctKeys := by
    simp [changedInBetween, Operation.IsShallow, Operation.ReadsBack, Operation.GivesOnly,
      Json.ReadsBack, Json.ItemsReadBack, Json.FieldsReadBack, Operation.HasDistinctKeys,
      Json.HasDistinctKeys, Json.ItemsHaveDistinctKeys, Json.FieldsHaveDistinctKeys]
    decide
  have live : IsLive (Endpoint.anyStoreId first) entries := by
    decide +kernel
  have supply := Store.isIdSupply_countedId
  exact ⟨supply, fits, live,
    (query_answers_lastGiven .standard 100 supply changedInBetween
      (fun operation member => (fits operation member).1)
      (fun operation member => (fits operation member).2.1)
      (fun operation member => (fits operation member).2.2) first "top=1").1 live⟩

end Service

end RecordQuery
