import RecordQuery.Json.Reader
import RecordQuery.Query.Settings
import RecordQuery.Schema
import RecordQuery.Store

/-! Operations on endpoints, as clients ask for them. Clients see ids without the store's mark and
may use either form. A collection is checked before the store is touched. A query may stop the
program; no other operation does.
-/

namespace RecordQuery

/-- The endpoint as clients see it. -/
def Endpoint.forClients (endpoint : Endpoint) : Endpoint :=
  { endpoint with id := publicId endpoint.id }

/-- The failure of a value that is no array. -/
def Failure.notAnArray (value : Json) : Failure :=
  ⟨.invalidCollection, "expected a JSON array, found " ++ value.kind.phrase⟩

/-- The records of a collection text. -/
def Collection.parse (raw : String) : Except Failure (List Json) :=
  match Json.read? raw with
  | some (.array records) => .ok records
  | some other => .error (.notAnArray other)
  | none => .error ⟨.json, "the text is not a JSON value"⟩

/-- The text of a submitted collection, which is an array or the text of one. -/
def Collection.text : Json → Except Failure String
  | .array records => .ok (Json.array records).render
  | .string text =>
    match Json.read? text with
    | some (.array _) => .ok text
    | some other => .error (.notAnArray other)
    | none => .error ⟨.invalidCollection, "raw is not valid JSON: the text is not a JSON value"⟩
  | other => .error (.notAnArray other)

/-- A path text, which is checked to be one. -/
def PropertyPath.check (text : String) : Except Failure PropertyPath :=
  (PropertyPath.parse text).mapError .ofPathError

/-- What an operation on a store comes to that may stop the program. -/
abbrev HaltingAction := ExceptT (Halt Failure) (StateM Store)

/-- An operation that does not stop the program, among those that may. -/
def StoreAction.halting (action : StoreAction α) : HaltingAction α :=
  ExceptT.adapt .told action

namespace Service

/-- The endpoints of the first page. -/
def list : StoreAction (List Endpoint) := do
  return (← Store.firstPage).map Endpoint.forClients

/-- Store a collection; its id property is the one of the settings where none is given. -/
def create (settings : QuerySettings) (idProperty : Option String) (raw : Json)
    : StoreAction Endpoint := do
  let text ← (Collection.text raw : Except Failure String)
  let idProperty := idProperty.getD settings.idProperty
  let _ ← (PropertyPath.check idProperty : Except Failure PropertyPath)
  let created ← Store.create [⟨idProperty, text⟩]
  match created.getLast? with
  | some endpoint => return endpoint.forClients
  | none => throw ⟨.invalidRequest, "store created no endpoint"⟩

/-- The answer to a query string on an endpoint's records. -/
def answer (settings : QuerySettings) (endpoint : Endpoint) (text : String)
    : Except (Halt Failure) QueryResult := do
  let records ← (Collection.parse endpoint.raw).mapError .told
  let query ← (Query.ofString settings.pageDefaults text).mapError
    (fun error => .told (.ofQueryError error))
  let path ← (PropertyPath.check endpoint.idProperty).mapError .told
  (query.run path.cursor records).mapError (Halt.map .ofQueryError)

/-- Run a query string on an endpoint. -/
def query (settings : QuerySettings) (id text : String) : HaltingAction QueryResult := do
  let endpoint ← (Store.find (Endpoint.anyStoreId id)).halting
  (answer settings endpoint text : Except (Halt Failure) QueryResult)

/-- The name of the id property that a change gives. -/
def idPropertyField (fields : List Json.Field) : Except Failure (Option String) :=
  match Json.field? "idPropName" fields with
  | none => .ok none
  | some (.string name) => (PropertyPath.check name).map (fun _ => some name)
  | some _ => .error ⟨.invalidRequest, "idPropName must be a string"⟩

/-- The change that a request body asks for; an id in the body is passed over. -/
def updateOf (id : String) : Json → Except Failure EndpointUpdate
  | .object fields => do
    let fields := Json.removeField "id" fields
    let idProperty ← idPropertyField fields
    let fields := Json.removeField "idPropName" fields
    let raw ←
      match Json.field? "raw" fields with
      | some raw => some <$> Collection.text raw
      | none => pure none
    match Json.removeField "raw" fields with
    | [] => .ok ⟨Endpoint.anyStoreId id, idProperty, raw⟩
    | (name, _) :: _ => .error ⟨.invalidRequest, "unknown endpoint field: " ++ name⟩
  | _ => .error ⟨.invalidRequest, "update body must be a JSON object"⟩

/-- Change an endpoint. -/
def update (id : String) (body : Json) : StoreAction Endpoint := do
  let change ← (updateOf id body : Except Failure EndpointUpdate)
  let updated ← Store.update [change]
  match updated.getLast? with
  | some endpoint => return endpoint.forClients
  | none => throw ⟨.invalidRequest, "store updated no endpoint"⟩

/-- Take an endpoint out. -/
def delete (id : String) : StoreAction Endpoint := do
  return (← Store.destroy (Endpoint.anyStoreId id)).forClients

/-- The title of inferred schemas. -/
def schemaTitle : String := "data"

/-- The schema of an endpoint's records. -/
def schema (id : String) : StoreAction Json := do
  let endpoint ← Store.find (Endpoint.anyStoreId id)
  let records ← (Collection.parse endpoint.raw : Except Failure (List Json))
  return Schema.infer schemaTitle records

end Service

/-- What is sent back for an operation. -/
structure Reply where
  status : Nat
  body : Json
  deriving DecidableEq

namespace Reply

/-- The reply that reports a failure. -/
def ofFailure (failure : Failure) : Reply :=
  ⟨failure.kind.status, .object [("error", .string failure.message)]⟩

/-- The reply to an operation. -/
def ofResult (result : Except Failure Json) : Reply :=
  match result with
  | .ok body => ⟨200, body⟩
  | .error failure => .ofFailure failure

/-- The reply to an operation that may stop the program; then there is none. -/
def ofHalting? (result : Except (Halt Failure) Json) : Option Reply :=
  match result with
  | .ok body => some (.ofResult (.ok body))
  | .error (.told failure) => some (.ofResult (.error failure))
  | .error .stopped => none

def isSuccess (reply : Reply) : Bool :=
  200 ≤ reply.status && reply.status < 300

end Reply

end RecordQuery
