import RecordQuery.Query.Parameters

/-! What queries and new endpoints use where a request leaves it out. -/

namespace RecordQuery

/-- What is used where a request leaves it out. -/
structure QuerySettings where
  defaultTop : UInt64
  defaultPageSize : UInt64
  idProperty : String
  deriving DecidableEq

/-- The settings where nothing else is set. -/
def QuerySettings.standard : QuerySettings :=
  ⟨PageDefaults.standard.top, PageDefaults.standard.pageSize, "id"⟩

/-- The page sizes of some settings. -/
def QuerySettings.pageDefaults (settings : QuerySettings) : PageDefaults :=
  ⟨settings.defaultTop, settings.defaultPageSize⟩

end RecordQuery
