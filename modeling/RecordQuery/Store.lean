import RecordQuery.Endpoint
import RecordQuery.Failure

/-! The store of endpoints. It keeps them in the order in which they were created, under ids that it
draws for them.
-/

namespace RecordQuery

/-- A store of endpoints in the order of their creation, with the texts that are drawn for their ids,
one after the other, and how many of these have been drawn.
-/
structure Store where
  endpoints : List Endpoint
  firstPageSize : UInt64
  ids : Nat → String
  drawn : Nat

/-- What an operation on a store comes to: a result or a failure, and the store afterwards. -/
abbrev StoreAction := ExceptT Failure (StateM Store)

namespace Store

/-- The number of endpoints on the first page where nothing else is set. -/
def defaultFirstPageSize : UInt64 := 100

/-- A store without endpoints, and the texts that will be drawn for ids. -/
def empty (firstPageSize : UInt64) (ids : Nat → String) : Store :=
  ⟨[], firstPageSize, ids, 0⟩

/-- The id that the store gives next. -/
def nextId (store : Store) : String :=
  Endpoint.storeId (store.ids store.drawn)

/-- Fail for an id that no endpoint has. -/
def notFound (id : String) : StoreAction α :=
  throw ⟨.notFound, id⟩

/-- The place of an endpoint. -/
def position? (store : Store) (id : String) : Option Nat :=
  store.endpoints.findIdx? (fun endpoint => endpoint.id = id)

/-- The endpoint with an id. -/
def find (id : String) : StoreAction Endpoint := do
  match (← get).endpoints.find? (fun endpoint => endpoint.id = id) with
  | some endpoint => return endpoint
  | none => notFound id

/-- Store a collection under a new id. -/
def createOne (new : NewEndpoint) : StoreAction Endpoint := do
  let store ← get
  let endpoint : Endpoint := ⟨store.nextId, new.idProperty, new.raw⟩
  set { store with endpoints := store.endpoints ++ [endpoint], drawn := store.drawn + 1 }
  return endpoint

/-- Store some collections. -/
def create (news : List NewEndpoint) : StoreAction (List Endpoint) :=
  news.mapM createOne

/-- Change one endpoint. -/
def updateOne (update : EndpointUpdate) : StoreAction Endpoint := do
  let store ← get
  let endpoint := update.apply (← find update.id)
  match store.position? update.id with
  | some place =>
    set { store with endpoints := store.endpoints.set place endpoint }
    return endpoint
  | none => notFound update.id

/-- Change some endpoints, or none of them if one is not there. -/
def update (updates : List EndpointUpdate) : StoreAction (List Endpoint) := do
  let store ← get
  match updates.find? (fun update => (store.position? update.id).isNone) with
  | some missing => notFound missing.id
  | none => updates.mapM updateOne

/-- Take an endpoint out. -/
def destroy (id : String) : StoreAction Endpoint := do
  let store ← get
  let endpoint ← find id
  set { store with endpoints := store.endpoints.eraseP (fun endpoint => endpoint.id = id) }
  return endpoint

/-- The oldest endpoints, as many as a page holds. -/
def firstPage : StoreAction (List Endpoint) := do
  let store ← get
  return store.endpoints.take store.firstPageSize.toNat

end Store

end RecordQuery
