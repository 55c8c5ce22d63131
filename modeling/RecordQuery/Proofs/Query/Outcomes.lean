import RecordQuery.Query.Basic

/-! How a query comes out. It is answered where its filter can be evaluated, the records that are
kept can be sorted and there is a page of them. It fails where its filter does or there is no such
page, and it stops where the records that are kept cannot be sorted.
-/

namespace RecordQuery.Query

/-- The records that the filter of a query keeps, and the same records sorted by its keys. -/
structure IsPrepared (query : Query) (records kept sorted : List Json) : Prop where
  filtered : Filter.keepIf query.filter records = .ok kept
  sort : SortKey.sort query.sortKeys kept = some sorted

variable {query : Query} {cursorOf : CursorKey} {records kept sorted : List Json}

theorem IsPrepared.unique {kept' sorted' : List Json}
    (prepared : query.IsPrepared records kept sorted)
    (prepared' : query.IsPrepared records kept' sorted')
    : kept = kept' ∧ sorted = sorted' := by
  obtain rfl := Except.ok.inj (prepared.filtered.symm.trans prepared'.filtered)
  exact ⟨rfl, Option.some_inj.mp (prepared.sort.symm.trans prepared'.sort)⟩

/-- Once its records are sorted a query projects them, and its page decides. -/
theorem IsPrepared.run_eq (prepared : query.IsPrepared records kept sorted)
    : query.run cursorOf records
      = ((query.page.page cursorOf (PropertyPath.select query.paths sorted)).map
          (QueryResult.mk query)).mapError (fun error => .told (.paging error)) := by
  unfold run
  rw [prepared.filtered]
  dsimp only [Except.mapError, bind, Except.bind]
  rw [prepared.sort]
  dsimp only [Halt.orStop]
  cases query.page.page cursorOf (PropertyPath.select query.paths sorted) <;> rfl

/-- A query whose filter fails tells so. -/
theorem run_of_keepIf_eq_error {error : QueryError}
    (failed : Filter.keepIf query.filter records = .error error)
    : query.run cursorOf records = .error (.told error) := by
  unfold run
  rw [failed]
  rfl

/-- A query whose records cannot be sorted stops. -/
theorem run_of_sort_eq_none (filtered : Filter.keepIf query.filter records = .ok kept)
    (unsorted : SortKey.sort query.sortKeys kept = none)
    : query.run cursorOf records = .error .stopped := by
  unfold run
  rw [filtered]
  dsimp only [Except.mapError, bind, Except.bind]
  rw [unsorted]
  rfl

/-- A query fails in its filter, stops or has its records sorted. -/
theorem run_cases (query : Query) (cursorOf : CursorKey) (records : List Json)
    : (∃ error, Filter.keepIf query.filter records = .error error
        ∧ query.run cursorOf records = .error (.told error))
      ∨ (∃ kept, Filter.keepIf query.filter records = .ok kept
        ∧ SortKey.sort query.sortKeys kept = none
        ∧ query.run cursorOf records = .error .stopped)
      ∨ ∃ kept sorted, query.IsPrepared records kept sorted := by
  cases filtered : Filter.keepIf query.filter records with
  | error error => exact .inl ⟨error, rfl, run_of_keepIf_eq_error filtered⟩
  | ok kept =>
      cases sort : SortKey.sort query.sortKeys kept with
      | none => exact .inr (.inl ⟨kept, rfl, sort, run_of_sort_eq_none filtered sort⟩)
      | some sorted => exact .inr (.inr ⟨kept, sorted, filtered, sort⟩)

/-- A query is answered where its records are sorted and there is a page of them. -/
theorem run_eq_ok_iff {result : QueryResult}
    : query.run cursorOf records = .ok result
      ↔ ∃ kept sorted, query.IsPrepared records kept sorted ∧ ∃ page,
        query.page.page cursorOf (PropertyPath.select query.paths sorted) = .ok page
        ∧ result = ⟨query, page⟩ := by
  constructor
  · intro answered
    rcases run_cases query cursorOf records
      with ⟨error, _, failed⟩ | ⟨kept, _, _, stopped⟩ | ⟨kept, sorted, prepared⟩
    · cases answered.symm.trans failed
    · cases answered.symm.trans stopped
    · refine ⟨kept, sorted, prepared, ?_⟩
      rw [prepared.run_eq] at answered
      cases paged : query.page.page cursorOf (PropertyPath.select query.paths sorted) with
      | error error =>
          rw [paged] at answered
          cases answered
      | ok page =>
          rw [paged] at answered
          exact ⟨page, rfl, (Except.ok.inj answered).symm⟩
  · rintro ⟨kept, sorted, prepared, page, paged, rfl⟩
    rw [prepared.run_eq, paged]
    rfl

/-- A query stops exactly where the records that it keeps cannot be sorted. -/
theorem run_eq_stopped_iff
    : query.run cursorOf records = .error .stopped
      ↔ ∃ kept, Filter.keepIf query.filter records = .ok kept
        ∧ SortKey.sort query.sortKeys kept = none := by
  constructor
  · intro stopped
    rcases run_cases query cursorOf records
      with ⟨error, _, failed⟩ | ⟨kept, filtered, sort, _⟩ | ⟨kept, sorted, prepared⟩
    · cases stopped.symm.trans failed
    · exact ⟨kept, filtered, sort⟩
    · rw [prepared.run_eq] at stopped
      cases paged : query.page.page cursorOf (PropertyPath.select query.paths sorted) <;>
        rw [paged] at stopped <;> cases stopped
  · rintro ⟨kept, filtered, unsorted⟩
    exact run_of_sort_eq_none filtered unsorted

end RecordQuery.Query
