import RecordQuery.Proofs.Filter.FirstMismatch
import RecordQuery.Proofs.Query.PageArithmetic
import RecordQuery.Proofs.Query.PagedRuns
import RecordQuery.Proofs.Text.Separated
import RecordQuery.Query.Parameters

/-! Queries that parameters gave. What is checked when they are read is all that running them needs
but for one thing: on any records such a query is answered, or a call in its filter cannot take the
type of an argument on one of the records, or the order of its keys is not transitive on the records
and sorting them stops.
-/

namespace RecordQuery

namespace Query

/-- A query is answered with a page of the records that its filter keeps, sorted and projected; it
is the page that arithmetic in words gives, where the records can be counted in a word.
-/
def IsAnswered (query : Query) (cursorOf : CursorKey) (records : List Json) : Prop :=
  ∃ kept sorted page, query.IsPrepared records kept sorted
    ∧ query.run cursorOf records = .ok ⟨query, page⟩
    ∧ (records.length < twoPow 64
      → query.page.wordPage? cursorOf (PropertyPath.select query.paths sorted) = some page)

/-- A query fails because a call in its filter cannot take an argument on one of the records. -/
def FailsOnTypes (query : Query) (cursorOf : CursorKey) (records : List Json) : Prop :=
  ∃ mismatch, query.run cursorOf records = .error (.told (.typeMismatch mismatch))
    ∧ ∃ filter ∈ query.filter, ∃ record ∈ records, mismatch.IsIn filter.calls record

/-- A query stops because sorting the records that its filter keeps comes to nothing, which happens
only where its keys order them in no transitive way.
-/
def StopsSorting (query : Query) (cursorOf : CursorKey) (records : List Json) : Prop :=
  query.run cursorOf records = .error .stopped
  ∧ ∃ kept, Filter.keepIf query.filter records = .ok kept
    ∧ SortKey.sort query.sortKeys kept = none ∧ ¬ SortKey.IsTransitiveOn query.sortKeys kept

/-- What holds of a query that was read from parameters. No sort keys and no paths stand for a
parameter that is absent; a star stands for whole records.
-/
structure IsBoundTo (query : Query) (pairs : List FormEncoding.Pair) : Prop where
  page : query.page.check = .ok ()
  sortKeys : query.sortKeys = [] ↔ Parameter.orderBy.value? pairs = none
  paths : query.paths = []
    ↔ ∀ text ∈ Parameter.select.value? pairs, Text.trimmed text = "*"
  calls : ∀ filter ∈ query.filter, ∀ call ∈ filter.calls, call.operands.length = call.arity
  run : ∀ cursorOf records,
    query.IsAnswered cursorOf records ∨ query.FailsOnTypes cursorOf records
      ∨ query.StopsSorting cursorOf records

end Query

-----------------------------------------------------------------------------------------
-- Lists of keys and paths
-----------------------------------------------------------------------------------------

/-- A text without white space at its ends is empty only where it was white space. -/
theorem Text.isAllBlank_of_trimmed_eq {text : String} (empty : trimmed text = "")
    : isAllBlank text = true := by
  have cut : trim text.toList = [] := String.ofList_eq_empty_iff.mp empty
  have trimmed : IsTrimmed [] := ⟨nofun, nofun⟩
  obtain ⟨before, after, leading, trailing, whole⟩ := (trim_eq_iff trimmed _).mp cut
  rw [isAllBlank_iff, whole, List.nil_append]
  exact List.forall_mem_append.mpr ⟨leading, trailing⟩

/-- A value of a parameter is not blank. -/
theorem Parameter.isAllBlank_of_value? {parameter : Parameter} {pairs : List FormEncoding.Pair}
    {text : String} (given : parameter.value? pairs = some text)
    : Text.isAllBlank text = false := by
  have visible := (Option.filter_eq_some_iff.mp given).2
  simpa using visible

/-- Reading some items one by one gives some. -/
theorem ne_nil_of_mapM {read : α → Except ε β} {items : List α} {results : List β}
    (done : items.mapM read = .ok results) (some : items ≠ [])
    : results ≠ [] := by
  rintro rfl
  exact some (List.forall₂_nil_right_iff.mp (mapM_eq_ok_iff.mp done))

theorem SortKey.ne_nil_of_parse {text : String} {keys : List SortKey}
    (visible : Text.isAllBlank text = false) (read : parse text = .ok keys)
    : keys ≠ [] := by
  rw [parse, visible] at read
  exact ne_nil_of_mapM read (List.splitOn_ne_nil ',' text.toList)

theorem PropertyPath.eq_nil_iff_of_parseList {text : String} {paths : List PropertyPath}
    (visible : Text.isAllBlank text = false) (read : parseList text = .ok paths)
    : paths = [] ↔ Text.trimmed text = "*" := by
  unfold parseList at read
  dsimp only at read
  split at read
  · next whole =>
      cases read
      refine ⟨fun _ => whole.resolve_left fun empty => ?_, fun _ => rfl⟩
      rw [Text.isAllBlank_of_trimmed_eq empty] at visible
      cases visible
  · next some =>
      obtain ⟨found, items, rfl⟩ := exists_of_map_eq_ok read
      obtain ⟨first, member⟩ :=
        List.exists_mem_of_ne_nil found (ne_nil_of_mapM items (List.splitOn_ne_nil ',' _))
      have kept := Text.mem_firstOccurrences.mpr member
      exact ⟨fun none => absurd (none ▸ kept) List.not_mem_nil,
        fun star => absurd (.inr star) some⟩

-----------------------------------------------------------------------------------------
-- Parameters
-----------------------------------------------------------------------------------------

variable {defaults : PageDefaults} {pairs : List FormEncoding.Pair} {query : Query}

/-- A request that is given only after its check has passed it. -/
theorem PageRequest.check_of_checked {asked : Except PagingError PageRequest}
    {request : PageRequest}
    (given : (do let request ← asked; request.check; return request) = .ok request)
    : request.check = .ok () := by
  obtain ⟨_, _, given⟩ := exists_of_bind_eq_ok given
  obtain ⟨_, checked, same⟩ := exists_of_bind_eq_ok given
  cases same
  exact checked

/-- A page that parameters ask for has passed its check, in whatever way it is asked for. -/
theorem PageRequest.check_of_ofPairs {request : PageRequest}
    (bound : PageRequest.ofPairs defaults pairs = .ok request)
    : request.check = .ok () := by
  unfold PageRequest.ofPairs at bound
  dsimp only at bound
  split at bound
  case h_1 | h_2 | h_4 =>
    obtain ⟨_, _, bound⟩ := exists_of_bind_eq_ok bound
    obtain ⟨_, _, bound⟩ := exists_of_bind_eq_ok bound
    exact check_of_checked bound
  case h_3 =>
    obtain ⟨_, _, bound⟩ := exists_of_bind_eq_ok bound
    exact check_of_checked bound
  case h_5 => cases bound

theorem SortKey.eq_nil_iff_of_readWith {keys : List SortKey}
    (read : Parameter.orderBy.readWith pairs []
      (fun text => (SortKey.parse text).mapError .parse) = .ok keys)
    : keys = [] ↔ Parameter.orderBy.value? pairs = none := by
  unfold Parameter.readWith at read
  cases given : Parameter.orderBy.value? pairs with
  | none =>
      rw [given] at read
      cases read
      exact ⟨fun _ => rfl, fun _ => rfl⟩
  | some text =>
      rw [given] at read
      have filled := ne_nil_of_parse (Parameter.isAllBlank_of_value? given)
        (eq_ok_of_mapError read)
      exact ⟨fun none => absurd none filled, nofun⟩

theorem PropertyPath.eq_nil_iff_of_readWith {paths : List PropertyPath}
    (read : Parameter.select.readWith pairs []
      (fun text => (PropertyPath.parseList text).mapError .parse) = .ok paths)
    : paths = [] ↔ ∀ text ∈ Parameter.select.value? pairs, Text.trimmed text = "*" := by
  unfold Parameter.readWith at read
  cases given : Parameter.select.value? pairs with
  | none =>
      rw [given] at read
      cases read
      exact ⟨fun _ => nofun, fun _ => rfl⟩
  | some text =>
      rw [given] at read
      rw [eq_nil_iff_of_parseList (Parameter.isAllBlank_of_value? given) (eq_ok_of_mapError read)]
      exact ⟨fun star _ same => Option.some.inj same ▸ star, fun stars => stars text rfl⟩

-----------------------------------------------------------------------------------------
-- Runs
-----------------------------------------------------------------------------------------

namespace Query

/-- Wherever a query stops, it stops sorting. -/
theorem run_eq_stopped_iff_stopsSorting {cursorOf : CursorKey} {records : List Json}
    : query.run cursorOf records = .error .stopped ↔ query.StopsSorting cursorOf records := by
  refine ⟨fun stopped => ⟨stopped, ?_⟩, fun stops => stops.1⟩
  obtain ⟨kept, filtered, unsorted⟩ := run_eq_stopped_iff.mp stopped
  refine ⟨kept, filtered, unsorted, fun transitive => ?_⟩
  obtain ⟨_, sort, _⟩ := SortKey.exists_sort transitive
  cases sort.symm.trans unsorted

/-- A query whose page passed its check is answered, fails in its filter or stops sorting. -/
theorem isAnswered_or_failsOnTypes_or_stopsSorting (checked : query.page.check = .ok ())
    (cursorOf : CursorKey) (records : List Json)
    : query.IsAnswered cursorOf records ∨ query.FailsOnTypes cursorOf records
      ∨ query.StopsSorting cursorOf records := by
  rcases query.run_cases cursorOf records
    with ⟨error, wrong, answer⟩ | ⟨_, _, _, answer⟩ | ⟨kept, sorted, prepared⟩
  · obtain ⟨filter, present, mismatch, rfl, failed⟩ := Filter.keepIf_eq_error_iff.mp wrong
    exact .inr (.inl ⟨mismatch, answer, filter, present, Filter.exists_isIn_of_keep failed⟩)
  · exact .inr (.inr (run_eq_stopped_iff_stopsSorting.mp answer))
  · obtain ⟨page, paged⟩ := PageRequest.exists_page_of_check checked cursorOf
      (PropertyPath.select query.paths sorted)
    refine .inl ⟨kept, sorted, page, prepared, prepared.run_of_page paged, fun fits => ?_⟩
    have few : (PropertyPath.select query.paths sorted).length < twoPow 64 := by
      rw [prepared.length_select]
      exact Nat.lt_of_le_of_lt (Filter.length_le_of_keepIf prepared.filtered) fits
    obtain ⟨same, words, paged'⟩ := PageRequest.wordPage?_of_check checked few cursorOf
    cases paged.symm.trans paged'
    exact words

/-- What holds of every query that parameters give: its page passes its check, only a parameter that
is absent gives no sort keys, every call has its arguments, and runs can fail on types only, but for
records on which its keys are not transitive.
-/
theorem isBoundTo_of_ofPairs (bound : Query.ofPairs defaults pairs = .ok query)
    : query.IsBoundTo pairs := by
  obtain ⟨filter, _, bound⟩ := exists_of_bind_eq_ok bound
  obtain ⟨sortKeys, keysRead, bound⟩ := exists_of_bind_eq_ok bound
  obtain ⟨paths, pathsRead, bound⟩ := exists_of_bind_eq_ok bound
  obtain ⟨page, pageRead, bound⟩ := exists_of_bind_eq_ok bound
  cases bound
  have checked : page.check = .ok () := PageRequest.check_of_ofPairs (eq_ok_of_mapError pageRead)
  exact {
    page := checked
    sortKeys := SortKey.eq_nil_iff_of_readWith keysRead
    paths := PropertyPath.eq_nil_iff_of_readWith pathsRead
    calls := fun filter _ call member => Filter.length_of_mem_calls member
    run := isAnswered_or_failsOnTypes_or_stopsSorting checked
  }

/-- A filter with a call in a call, a sort key, two paths and a page by number. -/
def eachParameter : List FormEncoding.Pair :=
  [("$filter", "length(concat(name, 'x')) gt 2 and startswith(name, 'a')"),
    ("orderby", "name desc"), ("select", "name, id"), ("pagingtype", "paging"),
    ("pagenumber", "2"), ("pagesize", "3")]

theorem isBoundTo_of_ofPairs_eachParameter
    : ∃ query, Query.ofPairs .standard eachParameter = .ok query
      ∧ query.IsBoundTo eachParameter := by
  have read : (Query.ofPairs .standard eachParameter).toOption.isSome := by
    decide +kernel
  cases bound : Query.ofPairs .standard eachParameter with
  | error error =>
      rw [bound] at read
      cases read
  | ok query => exact ⟨query, rfl, isBoundTo_of_ofPairs bound⟩

/-- The integers 2^53 and 2^53 + 1, and between them the double 2^53, which is equal to both. -/
def mixedNumbers : List Number :=
  [.int 9007199254740992 (by decide), .double (.ofInt 9007199254740992 (by decide)),
    .int 9007199254740993 (by decide)]

/-- Records with these numbers in turns. -/
def mixedRecords : List Json :=
  (List.replicate 7 mixedNumbers).flatten.map (fun n => .object [("n", .number n)])

theorem exists_of_mem_mixedRecords {record : Json} (member : record ∈ mixedRecords)
    : ∃ n ∈ mixedNumbers, record = .object [("n", .number n)] := by
  obtain ⟨n, found, rfl⟩ := List.mem_map.mp member
  obtain ⟨turn, same, found⟩ := List.mem_flatten.mp found
  exact ⟨n, List.eq_of_mem_replicate same ▸ found, rfl⟩

/-- The query that sorts by these numbers. -/
def mixedQuery : Query :=
  ⟨none, [⟨⟨"n", rfl, by decide⟩, .ascending⟩], [], .offset 0 PageDefaults.standard.top⟩

theorem ofPairs_mixedQuery : Query.ofPairs .standard [("orderby", "n")] = .ok mixedQuery := by
  decide +kernel

theorem run_mixedQuery (cursorOf : CursorKey)
    : mixedQuery.run cursorOf mixedRecords = .error .stopped := by
  have unsorted : SortKey.sort mixedQuery.sortKeys mixedRecords = none := by
    decide +kernel
  exact run_of_sort_eq_none rfl unsorted

/-- Sorting these records by their numbers stops. -/
theorem not_isAnswered_or_failsOnTypes
    : ¬ ∀ (defaults : PageDefaults) (pairs : List FormEncoding.Pair) (query : Query),
        Query.ofPairs defaults pairs = .ok query
        → ∀ cursorOf records,
          query.IsAnswered cursorOf records ∨ query.FailsOnTypes cursorOf records := by
  intro claimed
  have stopped := run_mixedQuery (fun _ => none)
  rcases claimed _ _ _ ofPairs_mixedQuery (fun _ => none) mixedRecords
    with ⟨_, _, _, _, answered, _⟩ | ⟨_, failed, _⟩
  · cases stopped.symm.trans answered
  · cases stopped.symm.trans failed

end Query

end RecordQuery
