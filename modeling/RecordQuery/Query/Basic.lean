import RecordQuery.Filter.Echo
import RecordQuery.Filter.Evaluation
import RecordQuery.Query.Paging
import RecordQuery.Query.Selection
import RecordQuery.Query.Sorting

/-! Queries: records are filtered, then sorted, then projected, and a page of them is taken. The
answer tells what was applied. No sort keys and no paths leave records as they are. Sorting may stop
the program, so a query may too.
-/

namespace RecordQuery

/-- A query. -/
structure Query where
  filter : Option Filter
  sortKeys : List SortKey
  paths : List PropertyPath
  page : PageRequest
  deriving DecidableEq

/-- The records of an answer, and what was applied to get them. -/
structure QueryResult where
  query : Query
  page : Page
  deriving DecidableEq

/-- The records that a filter accepts, in order; the first record on which it fails decides. -/
def Filter.keep (filter : Filter) : List Json → Except TypeMismatch (List Json)
  | [] => .ok []
  | record :: rest => do
    let accepted ← filter.accepts record
    let kept ← filter.keep rest
    return if accepted then record :: kept else kept

/-- The records that pass a filter, all of them if there is none. -/
def Filter.keepIf (filter : Option Filter) (records : List Json) : Except QueryError (List Json) :=
  match filter with
  | none => .ok records
  | some filter => (filter.keep records).mapError .typeMismatch

/-- The answer to a query on some records. -/
def Query.run (query : Query) (cursorOf : CursorKey) (records : List Json)
    : Except (Halt QueryError) QueryResult := do
  let kept ← (Filter.keepIf query.filter records).mapError .told
  let sorted ← Halt.orStop (SortKey.sort query.sortKeys kept)
  let selected := PropertyPath.select query.paths sorted
  let page ← (query.page.page cursorOf selected).mapError (fun error => .told (.paging error))
  return ⟨query, page⟩

/-- A filter that may be absent, as clients are told of it. -/
def Filter.echoOption : Option Filter → Json
  | some filter => filter.echo
  | none => .null

/-- Sort keys as clients are told of them. -/
def SortKey.echoAll (keys : List SortKey) : Json :=
  if keys.isEmpty then .null else .array (keys.map SortKey.echo)

/-- Paths as clients are told of them. -/
def PropertyPath.echoAll (paths : List PropertyPath) : Json :=
  if paths.isEmpty then .null else .array (paths.map (fun path => .string path.text))

/-- What was applied, stage by stage. -/
def QueryResult.summary (result : QueryResult) : Json :=
  .object
    [
      ("filtering", .object [("filter", Filter.echoOption result.query.filter)]),
      ("sorting", SortKey.echoAll result.query.sortKeys),
      ("selecting", PropertyPath.echoAll result.query.paths),
      ("pagination", result.page.summary.echo)
    ]

def QueryResult.toJson (result : QueryResult) : Json :=
  .object [("data", .array result.page.records), ("summary", result.summary)]

end RecordQuery
