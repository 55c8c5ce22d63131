import RecordQuery.Filter.Parser
import RecordQuery.FormEncoding
import RecordQuery.Query.Basic

/-! Queries given by named parameters. A name may have a dollar sign in front, the last occurrence
of a parameter counts, a blank value counts as none, and names that are not known are passed over.
-/

namespace RecordQuery

/-- The parameters of a query. -/
inductive Parameter where
  | filter
  | orderBy
  | select
  | pagingType
  | skip
  | top
  | after
  | pageNumber
  | pageSize
  deriving DecidableEq

namespace Parameter

/-- The name of a parameter. -/
def name : Parameter → String
  | .filter => "filter"
  | .orderBy => "orderby"
  | .select => "select"
  | .pagingType => "pagingtype"
  | .skip => "skip"
  | .top => "top"
  | .after => "after"
  | .pageNumber => "pagenumber"
  | .pageSize => "pagesize"

/-- Whether a pair names a parameter. -/
def isNamedBy (parameter : Parameter) (pair : FormEncoding.Pair) : Bool :=
  pair.1 = parameter.name || pair.1.toList = '$' :: parameter.name.toList

/-- The value of a parameter. -/
def value? (parameter : Parameter) (pairs : List FormEncoding.Pair) : Option String :=
  ((pairs.filter parameter.isNamedBy).getLast?.map Prod.snd).filter
    (fun value => !Text.isAllBlank value)

end Parameter

/-- The sizes of pages where a query gives none. -/
structure PageDefaults where
  top : UInt64
  pageSize : UInt64
  deriving DecidableEq

/-- The sizes that are used where nothing else is set. -/
def PageDefaults.standard : PageDefaults :=
  ⟨PageRequest.defaultSize, PageRequest.defaultSize⟩

/-- The parameter of a count. -/
def CountName.parameter : CountName → Parameter
  | .skip => .skip
  | .top => .top
  | .pageNumber => .pageNumber
  | .pageSize => .pageSize

/-- The value of a count, or the one it has where it is not given. -/
def CountName.read (name : CountName) (pairs : List FormEncoding.Pair) (default : UInt64)
    : Except PagingError UInt64 :=
  match name.parameter.value? pairs with
  | none => .ok default
  | some text =>
    match Text.unsigned64? (Text.trim text.toList) with
    | some count => .ok count
    | none => .error (.notACount name text)

/-- The page that parameters ask for. -/
def PageRequest.ofPairs (defaults : PageDefaults) (pairs : List FormEncoding.Pair)
    : Except PagingError PageRequest := do
  let type := (Parameter.pagingType.value? pairs).map Text.trimmed
  let request ←
    match type with
    | none | some "offset" => do
      let skip ← CountName.skip.read pairs 0
      let top ← CountName.top.read pairs defaults.top
      pure (.offset skip top)
    | some "cursor" => do
      let top ← CountName.top.read pairs defaults.top
      pure (.cursor (Parameter.after.value? pairs) top)
    | some "paging" => do
      let number ← CountName.pageNumber.read pairs 1
      let size ← CountName.pageSize.read pairs defaults.pageSize
      pure (.paging number size)
    | some other => throw (.unknownType other)
  request.check
  return request

/-- What a parameter gives where it has a value. -/
def Parameter.readWith (parameter : Parameter) (pairs : List FormEncoding.Pair) (absent : α)
    (parse : String → Except QueryError α) : Except QueryError α :=
  match parameter.value? pairs with
  | some text => parse text
  | none => .ok absent

/-- The query that parameters give. -/
def Query.ofPairs (defaults : PageDefaults) (pairs : List FormEncoding.Pair)
    : Except QueryError Query := do
  let filter ← Parameter.filter.readWith pairs none (fun text => some <$> Filter.parse text)
  let sortKeys ←
    Parameter.orderBy.readWith pairs [] (fun text => (SortKey.parse text).mapError .parse)
  let paths ←
    Parameter.select.readWith pairs [] (fun text => (PropertyPath.parseList text).mapError .parse)
  let page ← (PageRequest.ofPairs defaults pairs).mapError .paging
  return ⟨filter, sortKeys, paths, page⟩

/-- The query that a query string gives, with or without a question mark in front. -/
def Query.ofString (defaults : PageDefaults) (text : String) : Except QueryError Query := do
  let encoded := if text.toList.head? = some '?' then String.ofList text.toList.tail else text
  let pairs ← (FormEncoding.read encoded).mapError
    (fun detail => .parse (.malformedQueryString detail))
  Query.ofPairs defaults pairs

end RecordQuery
