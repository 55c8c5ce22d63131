import RecordQuery.Proofs.Path.Projection
import RecordQuery.Proofs.Query.CursorPages
import RecordQuery.Proofs.Query.Outcomes

/-! Pages by cursor of projected records. Records are projected before a page of them is taken, so
cursors are read from what the projection leaves. Where a selected path holds the id of a record,
the projection keeps every cursor, and the page is the same page projected; where none does, no
record has a cursor any more.
-/

namespace RecordQuery

namespace PropertyPath

variable {path : PropertyPath} {paths : List PropertyPath}

/-- A record keeps its cursor where a selected path holds it. -/
theorem cursor_pick_of_covers (covers : Covers paths path.names) (record : Json)
    : path.cursor (record.pick paths) = path.cursor record := by
  have same : path.resolve (record.pick paths) = path.resolve record :=
    Json.follow?_pick_of_covers record covers
  unfold cursor
  rw [same]

/-- It loses its cursor where none does, because objects are no cursors. -/
theorem cursor_pick_of_not_covers (notCovers : ¬ Covers paths path.names) (record : Json)
    : path.cursor (record.pick paths) = none := by
  unfold cursor
  cases found : path.resolve (record.pick paths) with
  | none => rfl
  | some value =>
      obtain ⟨inner, rfl⟩ := Json.follow?_pick_of_not_covers record notCovers found
      rfl

end PropertyPath

namespace Query

variable {query : Query} {after : Option String} {top : UInt64} {records : List Json}

/-- A query by cursor is answered where its filter can be evaluated, its records can be sorted and
its pages are not empty.
-/
theorem run_cursor_eq_ok_iff {cursorOf : CursorKey} (byCursor : query.page = .cursor after top)
    {result : QueryResult}
    : query.run cursorOf records = .ok result
      ↔ ∃ kept sorted, query.IsPrepared records kept sorted ∧ top ≠ 0
        ∧ result = ⟨query, PageRequest.cursorPage cursorOf after top
            (PropertyPath.select query.paths sorted)⟩ := by
  rw [run_eq_ok_iff]
  refine exists₂_congr fun kept sorted => and_congr_right fun _ => ?_
  rw [byCursor]
  by_cases zero : top = 0
  · subst zero
    exact ⟨fun ⟨_, paged, _⟩ => (nomatch paged), fun ⟨nonzero, _⟩ => absurd rfl nonzero⟩
  · rw [PageRequest.page_cursor cursorOf after zero]
    constructor
    · rintro ⟨page, paged, rfl⟩
      cases paged
      exact ⟨zero, rfl⟩
    · intro answered
      exact ⟨_, rfl, answered.2⟩

/-- What a query by cursor answers when it projects records, whenever it answers without. Where a
selected path holds the id, the page is the one without the projection, with its records projected.
Otherwise it has the first records, whatever cursor is asked for, and tells that nothing is to come.
-/
theorem run_of_run_whole (query : Query) {path : PropertyPath}
    (byCursor : query.page = .cursor after top) (selects : query.paths ≠ []) {result : QueryResult}
    (whole : { query with paths := [] }.run path.cursor records = .ok result)
    : ∃ kept sorted, Filter.keepIf query.filter records = .ok kept
      ∧ SortKey.sort query.sortKeys kept = some sorted
      ∧ query.run path.cursor records
        = .ok ⟨query, if PropertyPath.Covers query.paths path.names
            then result.page.map (·.pick query.paths)
            else ⟨(sorted.take top.toNat).map (·.pick query.paths),
              .cursor (after.filter (· ≠ "")) top none false⟩⟩ := by
  have byCursor' : { query with paths := [] }.page = .cursor after top := byCursor
  obtain ⟨kept, sorted, ⟨filtered, sort⟩, nonzero, rfl⟩ := (run_cursor_eq_ok_iff byCursor').mp whole
  refine ⟨kept, sorted, filtered, sort, ?_⟩
  refine (run_cursor_eq_ok_iff byCursor).mpr ⟨kept, sorted, ⟨filtered, sort⟩, nonzero, ?_⟩
  have projected : PropertyPath.select query.paths sorted = sorted.map (·.pick query.paths) := by
    rw [PropertyPath.select, if_neg (by simpa using selects)]
  rw [projected]
  congr 1
  split
  · next covers =>
      rw [PageRequest.cursorPage_map (PropertyPath.cursor_pick_of_covers covers)]
      rfl
  · next notCovers =>
      rw [PageRequest.cursorPage_of_no_cursors, ← List.map_take]
      intro record member
      obtain ⟨original, _, rfl⟩ := List.mem_map.mp member
      exact PropertyPath.cursor_pick_of_not_covers notCovers original

/-- The page after the first of two records, projected on their ids. -/
theorem run_of_run_whole_ids
    : Query.run
          ⟨none, [], [⟨"id", rfl, by decide⟩], .cursor (some "1") 1⟩
          (PropertyPath.cursor ⟨"id", rfl, by decide⟩)
          [.object [("id", .string "1"), ("name", .string "a")],
            .object [("id", .string "2"), ("name", .string "b")]]
        = .ok ⟨⟨none, [], [⟨"id", rfl, by decide⟩], .cursor (some "1") 1⟩,
            ⟨[.object [("id", .string "2")]], .cursor (some "1") 1 (some "2") false⟩⟩ := by
  have whole : Query.run ⟨none, [], [], .cursor (some "1") 1⟩
      (PropertyPath.cursor ⟨"id", rfl, by decide⟩)
      [.object [("id", .string "1"), ("name", .string "a")],
        .object [("id", .string "2"), ("name", .string "b")]]
      = .ok ⟨⟨none, [], [], .cursor (some "1") 1⟩,
          ⟨[.object [("id", .string "2"), ("name", .string "b")]],
            .cursor (some "1") 1 (some "2") false⟩⟩ :=
    (run_cursor_eq_ok_iff rfl).mpr ⟨_, _, ⟨rfl, rfl⟩, by decide, by decide⟩
  obtain ⟨kept, sorted, filtered, sort, answer⟩ := run_of_run_whole
    ⟨none, [], [⟨"id", rfl, by decide⟩], .cursor (some "1") 1⟩
    rfl (List.cons_ne_nil _ _) whole
  cases filtered
  cases sort
  rw [answer]
  refine congrArg Except.ok ?_
  decide

/-- Where no selected path holds the id, the page without the projection is not the one with it: of
two records projected on their names, the first page tells of no cursor and of no other page.
-/
theorem not_run_of_run_whole
    : ¬ ∀ (query : Query) (path : PropertyPath) (records : List Json) (after : Option String)
        (top : UInt64) (result : QueryResult), query.page = .cursor after top → query.paths ≠ []
        → { query with paths := [] }.run path.cursor records = .ok result
        → query.run path.cursor records
          = .ok ⟨query, result.page.map (·.pick query.paths)⟩ := by
  intro claimed
  have projected := claimed
    ⟨none, [], [⟨"name", rfl, by decide⟩], .cursor none 1⟩
    ⟨"id", rfl, by decide⟩
    [.object [("id", .string "1"), ("name", .string "a")],
      .object [("id", .string "2"), ("name", .string "b")]] none 1
    ⟨⟨none, [], [], .cursor none 1⟩,
      ⟨[.object [("id", .string "1"), ("name", .string "a")]], .cursor none 1 (some "1") true⟩⟩
    rfl (List.cons_ne_nil _ _)
    ((run_cursor_eq_ok_iff rfl).mpr ⟨_, _, ⟨rfl, rfl⟩, by decide, by decide⟩)
  obtain ⟨kept, sorted, ⟨filtered, sort⟩, _, same⟩ := (run_cursor_eq_ok_iff rfl).mp projected
  cases filtered
  cases sort
  revert same
  decide

end Query

end RecordQuery
