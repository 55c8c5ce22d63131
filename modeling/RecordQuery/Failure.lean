import RecordQuery.Error

/-! Failures as clients are told of them: a kind, from which the status follows, and a wording. The
request is at fault for every failure to read or run a query; a store, the configuration and files
are not of the client's making.
-/

namespace RecordQuery

/-- The kinds of failures. -/
inductive FailureKind where
  | parse
  | typeMismatch
  | unsupported
  | paging
  | notFound
  | backend
  | invalidCollection
  | invalidRequest
  | config
  | file
  | json
  deriving DecidableEq

/-- The words in front of a failure's own. -/
def FailureKind.heading : FailureKind → String
  | .parse => "Parse error: "
  | .typeMismatch => "Type mismatch: "
  | .unsupported => "Unsupported operator: "
  | .paging => "Invalid pagination: "
  | .notFound => "Endpoint not found: "
  | .backend => "Store backend error: "
  | .invalidCollection => "Invalid collection: "
  | .invalidRequest => "Invalid request: "
  | .config => "Configuration error: "
  | .file => "I/O error: "
  | .json => "JSON error: "

/-- The status of a reply that reports a failure. -/
def FailureKind.status : FailureKind → Nat
  | .parse | .typeMismatch | .unsupported | .paging | .invalidCollection | .invalidRequest => 400
  | .notFound => 404
  | .backend | .config | .file | .json => 500

/-- A failure. -/
structure Failure where
  kind : FailureKind
  detail : String
  deriving DecidableEq

namespace Failure

def message (failure : Failure) : String :=
  failure.kind.heading ++ failure.detail

/-- The request itself is at fault. -/
def isClientError (failure : Failure) : Bool :=
  400 ≤ failure.kind.status && failure.kind.status < 500

/-- A failure to read or run a query. -/
def ofQueryError : QueryError → Failure
  | .parse error => ⟨.parse, error.message⟩
  | .unsupported error => ⟨.unsupported, error.message⟩
  | .typeMismatch error => ⟨.typeMismatch, error.message⟩
  | .paging error => ⟨.paging, error.message⟩

/-- A failure to read a path. -/
def ofPathError (error : PathError) : Failure :=
  .ofQueryError (.parse (.path error))

end Failure

end RecordQuery
