import RecordQuery.Error
import RecordQuery.Path.Basic

/-! Pages of records, in three ways: by how many records to skip, by the cursor of the record before
the page, and by the number of the page. Sizes are 64-bit words.
-/

namespace RecordQuery

/-- The page that is asked for. -/
inductive PageRequest where
  | offset (skip top : UInt64)
  | cursor (after : Option String) (top : UInt64)
  | paging (number size : UInt64)
  deriving DecidableEq

/-- The page size where a query gives none. -/
def PageRequest.defaultSize : UInt64 := 10

/-- What is told of a page: what was asked for, and what was found. -/
inductive PageSummary where
  | offset (skip top : UInt64) (total : Nat)
  | cursor (after : Option String) (top : UInt64) (last : Option String) (hasNext : Bool)
  | paging (number size : UInt64) (pageCount : Nat)
  deriving DecidableEq

/-- A page of records. -/
structure Page where
  records : List Json
  summary : PageSummary
  deriving DecidableEq

/-- How the cursor of a record is found; a record may have none. -/
abbrev CursorKey := Json → Option String

/-- The cursor under a path: a string is its own cursor, numbers and truth values give their text.
-/
def PropertyPath.cursor (path : PropertyPath) : CursorKey := fun record =>
  match path.resolve record with
  | some (.string s) => some s
  | some (.number n) => some (Json.number n).render
  | some (.bool b) => some (Json.bool b).render
  | _ => none

namespace PageRequest

/-- The name of a way of paging. -/
def kind : PageRequest → String
  | .offset .. => "offset"
  | .cursor .. => "cursor"
  | .paging .. => "paging"

/-- A request that can have a page. A page may be empty only where it is asked for by offset. -/
def check : PageRequest → Except PagingError Unit
  | .offset .. => .ok ()
  | .cursor _ top => if top = 0 then .error .zeroTop else .ok ()
  | .paging number size =>
    if size = 0 then .error .zeroPageSize
    else if number = 0 then .error .zeroPageNumber
    else .ok ()

/-- The records before a page, which stay below 2^64 where the product does not. -/
def skipped (number size : UInt64) : Nat :=
  min (size.toNat * (number - 1).toNat) (twoPow 64 - 1)

/-- The number of pages as clients are told: whole pages, less one where they take all records. -/
def pageCount (total : Nat) (size : UInt64) : Nat :=
  if total = 0 then 1
  else if total % size.toNat = 0 then total / size.toNat - 1
  else total / size.toNat

/-- Where the page after a cursor starts: behind the first record that has it, or at the start if
none does.
-/
def startAfter (cursorOf : CursorKey) (after : Option String) (records : List Json) : Nat :=
  match after with
  | some wanted =>
    match records.findIdx? (fun record => cursorOf record = some wanted) with
    | some place => place + 1
    | none => 0
  | none => 0

/-- The page after a cursor. More is to come where the last record of the page and the last record
of all have different cursors.
-/
def cursorPage (cursorOf : CursorKey) (after : Option String) (top : UInt64) (records : List Json)
    : Page :=
  let after := after.filter (· ≠ "")
  let page := (records.drop (startAfter cursorOf after records)).take top.toNat
  match page.getLast? with
  | some last =>
    ⟨page, .cursor after top (cursorOf last) (cursorOf last != records.getLast?.bind cursorOf)⟩
  | none => ⟨page, .cursor after top none false⟩

/-- The page of some records that is asked for. -/
def page (cursorOf : CursorKey) (request : PageRequest) (records : List Json)
    : Except PagingError Page := do
  request.check
  match request with
  | .offset skip top =>
    return ⟨(records.drop skip.toNat).take top.toNat, .offset skip top records.length⟩
  | .cursor after top => return cursorPage cursorOf after top records
  | .paging number size =>
    return ⟨(records.drop (skipped number size)).take size.toNat,
      .paging number size (pageCount records.length size)⟩

/-- A text that may be absent, as a value. -/
def textEcho : Option String → Json
  | some s => .string s
  | none => .null

/-- A request as clients are told of it. -/
def echo : PageRequest → Json
  | .offset skip top =>
    .object
      [
        ("type", .string "offset"), ("skip", .number (.ofUInt64 skip)),
        ("top", .number (.ofUInt64 top))
      ]
  | .cursor after top =>
    .object
      [("type", .string "cursor"), ("after", textEcho after), ("top", .number (.ofUInt64 top))]
  | .paging number size =>
    .object
      [
        ("type", .string "paging"), ("page_number", .number (.ofUInt64 number)),
        ("page_size", .number (.ofUInt64 size))
      ]

end PageRequest

/-- A summary as clients are told of it: the request, and behind it what was found. -/
def PageSummary.echo : PageSummary → Json
  | .offset skip top total =>
    .object
      [
        ("type", .string "offset"), ("skip", .number (.ofUInt64 skip)),
        ("top", .number (.ofUInt64 top)), ("total_count", .number (.nearestInt total))
      ]
  | .cursor after top last hasNext =>
    .object
      [
        ("type", .string "cursor"), ("after", PageRequest.textEcho after),
        ("top", .number (.ofUInt64 top)), ("last_cursor", PageRequest.textEcho last),
        ("has_next_page", .bool hasNext)
      ]
  | .paging number size pageCount =>
    .object
      [
        ("type", .string "paging"), ("page_number", .number (.ofUInt64 number)),
        ("page_size", .number (.ofUInt64 size)),
        ("total_page_count", .number (.nearestInt pageCount))
      ]

end RecordQuery
