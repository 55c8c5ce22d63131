import RecordQuery.Json.Decoding

/-! Endpoints: collections of records as JSON text, each with the name of the property that tells
its records apart. Stored endpoints have ids with a mark in front that clients need not use.
-/

namespace RecordQuery

/-- A stored collection, as JSON text. -/
structure Endpoint where
  id : String
  idProperty : String
  raw : String
  deriving DecidableEq

/-- A collection to be stored. -/
structure NewEndpoint where
  idProperty : String
  raw : String
  deriving DecidableEq

/-- A change of an endpoint; what is not given stays as it is. -/
structure EndpointUpdate where
  id : String
  idProperty : Option String
  raw : Option String
  deriving DecidableEq

/-- The endpoint after a change; it keeps its id. -/
def EndpointUpdate.apply (update : EndpointUpdate) (endpoint : Endpoint) : Endpoint :=
  ⟨endpoint.id, update.idProperty.getD endpoint.idProperty, update.raw.getD endpoint.raw⟩

/-- What the ids of stored endpoints start with. -/
def Endpoint.idMark : List Char := ['r', 'e', 'c']

/-- The id that the store uses for an id that clients use. -/
def Endpoint.storeId (publicId : String) : String :=
  String.ofList (idMark ++ publicId.toList)

/-- The id that clients use: the store's id without its mark. -/
def Endpoint.publicId (id : String) : String :=
  if idMark.isPrefixOf id.toList then String.ofList (id.toList.drop idMark.length) else id

/-- The id that the store uses for an id of either form. -/
def Endpoint.anyStoreId (id : String) : String :=
  if idMark.isPrefixOf id.toList then id else storeId id

/-! ### Endpoints as JSON values -/

/-- The names of the fields of an endpoint. -/
def Endpoint.fieldNames : List String := ["id", "idPropName", "raw"]

def Endpoint.toJson (endpoint : Endpoint) : Json :=
  .object
    [
      ("id", .string endpoint.id), ("idPropName", .string endpoint.idProperty),
      ("raw", .string endpoint.raw)
    ]

def Endpoint.ofJson? (value : Json) : Option Endpoint := do
  match ← value.record? .json fieldNames with
  | [some id, some idProperty, some raw] =>
    some ⟨← id.text?, ← idProperty.text?, ← raw.text?⟩
  | _ => none

def NewEndpoint.toJson (new : NewEndpoint) : Json :=
  .object [("idPropName", .string new.idProperty), ("raw", .string new.raw)]

def NewEndpoint.ofJson? (value : Json) : Option NewEndpoint := do
  match ← value.record? .json (Endpoint.fieldNames.drop 1) with
  | [some idProperty, some raw] => some ⟨← idProperty.text?, ← raw.text?⟩
  | _ => none

/-- A change as a value, in which only what changes is given. -/
def EndpointUpdate.toJson (update : EndpointUpdate) : Json :=
  let given (name : String) (text : Option String) : List Json.Field :=
    text.toList.map (fun text => (name, .string text))
  .object
    (("id", .string update.id) :: given "idPropName" update.idProperty ++ given "raw" update.raw)

def EndpointUpdate.ofJson? (value : Json) : Option EndpointUpdate := do
  match ← value.record? .json Endpoint.fieldNames with
  | [some id, idProperty, raw] =>
    some ⟨← id.text?, ← Json.optional? Json.text? idProperty, ← Json.optional? Json.text? raw⟩
  | _ => none

end RecordQuery
