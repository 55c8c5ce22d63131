import RecordQuery.Proofs.Except
import RecordQuery.Proofs.Store.Batches

/-! What the operations on endpoints come to on a store: the result or the failure, and the store
afterwards. Everything that a request gives is checked before the store is touched, so an operation
that fails leaves the store as it was.
-/

namespace RecordQuery

/-- The answer to a query string on some records, whose cursors are under a path. -/
def Query.answer (settings : QuerySettings) (path : PropertyPath) (records : List Json)
    (text : String) : Except (Halt QueryError) QueryResult := do
  let query ← (Query.ofString settings.pageDefaults text).mapError .told
  query.run path.cursor records

-----------------------------------------------------------------------------------------
-- Why a step fails
-----------------------------------------------------------------------------------------

/-- A value that is not taken as a collection is told to be none. -/
theorem Collection.kind_of_text_error {raw : Json} {failure : Failure}
    (failed : Collection.text raw = .error failure)
    : failure.kind = .invalidCollection := by
  unfold Collection.text at failed
  split at failed
  · cases failed
  · split at failed
    · cases failed
    · cases failed
      rfl
    · cases failed
      rfl
  · cases failed
    rfl

theorem PropertyPath.kind_of_check_error {text : String} {failure : Failure}
    (failed : PropertyPath.check text = .error failure)
    : failure.kind = .parse := by
  obtain ⟨error, _, rfl⟩ := exists_of_mapError_eq_error failed
  rfl

theorem Failure.status_ofQueryError (error : QueryError)
    : (Failure.ofQueryError error).kind.status = 400 := by
  cases error with
  | parse error => rfl
  | unsupported error => rfl
  | typeMismatch error => rfl
  | paging error => rfl

namespace Service

/-- The collection to be stored that a request gives. -/
def accept (settings : QuerySettings) (idProperty : Option String) (raw : Json)
    : Except Failure NewEndpoint := do
  let text ← Collection.text raw
  let idProperty := idProperty.getD settings.idProperty
  let _ ← PropertyPath.check idProperty
  return ⟨idProperty, text⟩

/-- A collection that cannot be stored is the request's fault. -/
theorem status_of_accept_error {settings : QuerySettings} {idProperty : Option String}
    {raw : Json} {failure : Failure} (failed : accept settings idProperty raw = .error failure)
    : failure.kind.status = 400 := by
  rcases eq_error_of_bind failed with failed | ⟨text, _, failed⟩
  · rw [Collection.kind_of_text_error failed]
    rfl
  rcases eq_error_of_bind failed with failed | ⟨path, _, failed⟩
  · rw [PropertyPath.kind_of_check_error failed]
    rfl
  cases failed

-----------------------------------------------------------------------------------------
-- What an operation comes to
-----------------------------------------------------------------------------------------

theorem perform_list (store : Store)
    : store.perform list
      = (.ok ((store.endpoints.take store.firstPageSize.toNat).map Endpoint.forClients), store) :=
  rfl

theorem perform_create (settings : QuerySettings) (store : Store) (idProperty : Option String)
    (raw : Json)
    : store.perform (create settings idProperty raw)
      = match accept settings idProperty raw with
        | .ok new => (.ok (store.issue new).forClients, store.added new)
        | .error failure => (.error failure, store) := by
  unfold create accept
  rw [Store.perform_bind, Store.perform_lift]
  cases Collection.text raw with
  | error failure => rfl
  | ok text =>
      dsimp only
      rw [Store.perform_bind, Store.perform_lift]
      cases PropertyPath.check (idProperty.getD settings.idProperty) with
      | error failure => rfl
      | ok path =>
          dsimp only
          rw [Store.perform_bind, Store.perform_create_singleton]
          rfl

/-- An endpoint answers a query string as its records do, with cursors under its id property. -/
theorem answer_eq {settings : QuerySettings} {endpoint : Endpoint} {records : List Json}
    {path : PropertyPath} (read : Collection.parse endpoint.raw = .ok records)
    (named : PropertyPath.parse endpoint.idProperty = .ok path) (text : String)
    : answer settings endpoint text
      = (Query.answer settings path records text).mapError (Halt.map .ofQueryError) := by
  unfold answer Query.answer PropertyPath.check
  rw [read, named]
  cases Query.ofString settings.pageDefaults text with
  | ok query => rfl
  | error error => rfl

theorem perform_query (settings : QuerySettings) (store : Store) (id text : String)
    : store.perform (query settings id text)
      = (((store.found (Endpoint.anyStoreId id)).mapError .told).bind (fun endpoint =>
          answer settings endpoint text), store) := by
  rw [query, Store.perform_bind, Store.perform_halting, Store.perform_find]
  cases store.found (Endpoint.anyStoreId id) with
  | error failure => rfl
  | ok endpoint => rfl

theorem perform_update (store : Store) (id : String) (body : Json)
    : store.perform (update id body)
      = match updateOf id body with
        | .ok change =>
          ((store.found change.id).map (fun endpoint => (change.apply endpoint).forClients),
            store.changed change)
        | .error failure => (.error failure, store) := by
  rw [update, Store.perform_bind, Store.perform_lift]
  cases updateOf id body with
  | error failure => rfl
  | ok change =>
      dsimp only
      rw [Store.perform_bind, Store.perform_update_singleton]
      cases store.found change.id with
      | error failure => rfl
      | ok endpoint => rfl

theorem perform_delete (store : Store) (id : String)
    : store.perform (delete id)
      = ((store.found (Endpoint.anyStoreId id)).map Endpoint.forClients,
          store.without (Endpoint.anyStoreId id)) := by
  rw [delete, Store.perform_bind, Store.perform_destroy]
  cases store.found (Endpoint.anyStoreId id) with
  | error failure => rfl
  | ok endpoint => rfl

theorem perform_schema (store : Store) (id : String)
    : store.perform (schema id)
      = ((store.found (Endpoint.anyStoreId id)).bind (fun endpoint =>
          (Collection.parse endpoint.raw).map (Schema.infer schemaTitle)), store) := by
  rw [schema, Store.perform_bind, Store.perform_find]
  cases store.found (Endpoint.anyStoreId id) with
  | error failure => rfl
  | ok endpoint =>
      dsimp only [Except.bind]
      rw [Store.perform_bind, Store.perform_lift]
      cases Collection.parse endpoint.raw with
      | error failure => rfl
      | ok records => rfl

end Service

end RecordQuery
