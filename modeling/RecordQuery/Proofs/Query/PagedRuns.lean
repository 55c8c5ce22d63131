import RecordQuery.Proofs.Filter.Keeping
import RecordQuery.Proofs.Query.CursorWalk
import RecordQuery.Proofs.Query.Outcomes
import RecordQuery.Proofs.Query.Sorting

/-! Queries that ask for one page after the other, by offset or by number. All of them filter, sort
and project the same records before they take a page, so the pages together are the records that the
filter accepts, in their stable order and projected.
-/

namespace RecordQuery

/-- The number of pages of a size that some records take. -/
def PageRequest.pagesFilled (size : UInt64) (records : List Json) : Nat :=
  (records.length + size.toNat - 1) / size.toNat

namespace Query

/-- The records that a query answers with when it asks for a page. -/
def recordsOn (query : Query) (cursorOf : CursorKey) (records : List Json) (page : PageRequest)
    : Except (Halt QueryError) (List Json) := do
  let result ← { query with page := page }.run cursorOf records
  return result.page.records

/-- The records that a client has after it asked for some pages, one after the other. -/
def recordsOnAll (query : Query) (cursorOf : CursorKey) (records : List Json)
    : List PageRequest → Except (Halt QueryError) (List Json)
  | [] => .ok []
  | page :: rest => do
    let first ← query.recordsOn cursorOf records page
    let others ← query.recordsOnAll cursorOf records rest
    return first ++ others

/-- The requests for pages of a size by offset, as many as asked for. -/
def offsetPages (size : UInt64) (count : Nat) : List PageRequest :=
  (List.range count).map (fun place => .offset (UInt64.ofNat (place * size.toNat)) size)

/-- The requests for pages of a size by number, as many as asked for. -/
def numberedPages (size : UInt64) (count : Nat) : List PageRequest :=
  (List.range count).map (fun place => .paging (UInt64.ofNat (place + 1)) size)

/-- A query answers with the pages of a list: asked for by offset or by number, the pages that the
list takes are the list, later ones are empty, and the length of the list is told on every page by
offset, in whatever order and however projected, unless the records cannot be brought in that order.
-/
structure IsPaged (query : Query) (cursorOf : CursorKey) (records : List Json) (size : UInt64)
    (whole : List Json) : Prop where
  offsets : query.recordsOnAll cursorOf records
    (offsetPages size (PageRequest.pagesFilled size whole)) = .ok whole
  numbers : query.recordsOnAll cursorOf records
    (numberedPages size (PageRequest.pagesFilled size whole)) = .ok whole
  pastOffsets : ∀ place ≥ PageRequest.pagesFilled size whole, place * size.toNat < twoPow 64
    → query.recordsOn cursorOf records (.offset (UInt64.ofNat (place * size.toNat)) size) = .ok []
  pastNumbers : ∀ place ≥ PageRequest.pagesFilled size whole, place + 1 < twoPow 64
    → query.recordsOn cursorOf records (.paging (UInt64.ofNat (place + 1)) size) = .ok []
  total : ∀ sortKeys paths skip top,
    run ⟨query.filter, sortKeys, paths, .offset skip top⟩ cursorOf records ≠ .error .stopped
    → ∃ data, run ⟨query.filter, sortKeys, paths, .offset skip top⟩ cursorOf records
      = .ok ⟨⟨query.filter, sortKeys, paths, .offset skip top⟩,
          ⟨data, .offset skip top whole.length⟩⟩

-----------------------------------------------------------------------------------------
-- Records in pages
-----------------------------------------------------------------------------------------

/-- The first pages hold the first records, by induction on how many pages there are. -/
theorem flatMap_pages (whole : List Json) (size count : Nat)
    : (List.range count).flatMap (fun place => (whole.drop (place * size)).take size)
      = whole.take (count * size) := by
  induction count with
  | zero => simp
  | succ count ih =>
      rw [List.range_succ, List.flatMap_append, ih, Nat.succ_mul, List.take_add]
      simp

/-- The pages that some records take have room for all of them. -/
theorem length_le_pagesFilled {size : UInt64} (nonzero : size ≠ 0) (whole : List Json)
    : whole.length ≤ PageRequest.pagesFilled size whole * size.toNat := by
  have pos : 0 < size.toNat := UInt64.pos_iff_ne_zero.mpr nonzero
  have exact := Nat.div_add_mod (whole.length + size.toNat - 1) size.toNat
  have rest := Nat.mod_lt (whole.length + size.toNat - 1) pos
  rw [PageRequest.pagesFilled, Nat.mul_comm]
  omega

/-- A page that some records take starts with one of them. -/
theorem mul_lt_length_of_lt_pagesFilled {size : UInt64} {whole : List Json} {place : Nat}
    (nonzero : size ≠ 0) (few : place < PageRequest.pagesFilled size whole)
    : place * size.toNat < whole.length := by
  have pos : 0 < size.toNat := UInt64.pos_iff_ne_zero.mpr nonzero
  have reached : (place + 1) * size.toNat ≤ whole.length + size.toNat - 1 :=
    (Nat.le_div_iff_mul_le pos).mp few
  rw [Nat.succ_mul] at reached
  omega

/-- The place and the number of a page that some records take are words. -/
theorem lt_twoPow_of_lt_pagesFilled {size : UInt64} {whole : List Json} {place : Nat}
    (nonzero : size ≠ 0) (fits : whole.length < twoPow 64)
    (few : place < PageRequest.pagesFilled size whole)
    : place * size.toNat < twoPow 64 ∧ place + 1 < twoPow 64 := by
  have starts := mul_lt_length_of_lt_pagesFilled nonzero few
  have pos : 0 < size.toNat := UInt64.pos_iff_ne_zero.mpr nonzero
  have least := Nat.le_mul_of_pos_right place pos
  omega

/-- A page that starts behind the pages that some records take holds none of them. -/
theorem page_eq_nil_of_pagesFilled_le {size : UInt64} {whole : List Json} {place : Nat}
    (nonzero : size ≠ 0) (past : PageRequest.pagesFilled size whole ≤ place)
    : (whole.drop (place * size.toNat)).take size.toNat = [] := by
  have behind : whole.length ≤ place * size.toNat :=
    Nat.le_trans (length_le_pagesFilled nonzero whole) (Nat.mul_le_mul_right _ past)
  rw [List.drop_eq_nil_of_le behind, List.take_nil]

-----------------------------------------------------------------------------------------
-- One request
-----------------------------------------------------------------------------------------

variable {query : Query} {cursorOf : CursorKey} {records : List Json} {size : UInt64}

/-- A query takes its page from the records that its filter keeps, sorted and projected. -/
theorem IsPrepared.run_of_page {kept sorted : List Json} {page : Page}
    (prepared : query.IsPrepared records kept sorted)
    (paged : query.page.page cursorOf (PropertyPath.select query.paths sorted) = .ok page)
    : query.run cursorOf records = .ok ⟨query, page⟩ :=
  run_eq_ok_iff.mpr ⟨kept, sorted, prepared, page, paged, rfl⟩

theorem length_select (paths : List PropertyPath) (kept : List Json)
    : (PropertyPath.select paths kept).length = kept.length := by
  unfold PropertyPath.select
  split
  · rfl
  · exact List.length_map _

theorem IsPrepared.length_select {kept sorted : List Json}
    (prepared : query.IsPrepared records kept sorted) (paths : List PropertyPath)
    : (PropertyPath.select paths sorted).length = kept.length :=
  (Query.length_select paths sorted).trans (SortKey.sort_perm prepared.sort).length_eq

/-- A page by offset tells how many records the filter keeps. -/
theorem run_offset {query : Query} {kept sorted : List Json} {skip top : UInt64}
    (byOffset : query.page = .offset skip top) (prepared : query.IsPrepared records kept sorted)
    : query.run cursorOf records
      = .ok ⟨query, ⟨((PropertyPath.select query.paths sorted).drop skip.toNat).take top.toNat,
          .offset skip top kept.length⟩⟩ := by
  refine prepared.run_of_page ?_
  rw [byOffset, ← prepared.length_select query.paths]
  rfl

/-- Asked for by offset, a page is the part of the sorted and projected records at its place. -/
theorem recordsOn_offset {kept sorted : List Json}
    (prepared : query.IsPrepared records kept sorted) {place : Nat}
    (word : place * size.toNat < twoPow 64)
    : query.recordsOn cursorOf records (.offset (UInt64.ofNat (place * size.toNat)) size)
      = .ok (((PropertyPath.select query.paths sorted).drop
          (place * size.toNat)).take size.toNat) := by
  have named : (UInt64.ofNat (place * size.toNat)).toNat = place * size.toNat :=
    UInt64.toNat_ofNat_of_lt' word
  have asked : { query with page := .offset (UInt64.ofNat (place * size.toNat)) size }.IsPrepared
      records kept sorted :=
    ⟨prepared.filtered, prepared.sort⟩
  rw [recordsOn, run_offset rfl asked, named]
  rfl

/-- Asked for by number, it is the same part. -/
theorem recordsOn_paging {kept sorted : List Json}
    (prepared : query.IsPrepared records kept sorted) {place : Nat} (nonzero : size ≠ 0)
    (fits : kept.length < twoPow 64) (word : place + 1 < twoPow 64)
    : query.recordsOn cursorOf records (.paging (UInt64.ofNat (place + 1)) size)
      = .ok (((PropertyPath.select query.paths sorted).drop
          (place * size.toNat)).take size.toNat) := by
  have few : (PropertyPath.select query.paths sorted).length < twoPow 64 := by
    rwa [prepared.length_select]
  have paged : (PageRequest.paging (UInt64.ofNat (place + 1)) size).page cursorOf
      (PropertyPath.select query.paths sorted) = .ok _ :=
    PageRequest.page_paging nonzero few word
  have asked : { query with page := .paging (UInt64.ofNat (place + 1)) size }.IsPrepared
      records kept sorted :=
    ⟨prepared.filtered, prepared.sort⟩
  rw [recordsOn, asked.run_of_page paged]
  rfl

-----------------------------------------------------------------------------------------
-- One request after the other
-----------------------------------------------------------------------------------------

/-- What a client has when every page is answered, by induction on the pages asked for. -/
theorem recordsOnAll_map {ask : Nat → PageRequest} {data : Nat → List Json} {places : List Nat}
    (answered : ∀ place ∈ places,
      query.recordsOn cursorOf records (ask place) = .ok (data place))
    : query.recordsOnAll cursorOf records (places.map ask) = .ok (places.flatMap data) := by
  induction places with
  | nil => rfl
  | cons place rest ih =>
      have first := answered place List.mem_cons_self
      have others := ih fun other member => answered other (List.mem_cons_of_mem _ member)
      rw [List.map_cons, recordsOnAll, first, others]
      rfl

/-- A query answers with the pages of the records that its filter keeps, sorted and projected. -/
theorem IsPrepared.isPaged {kept sorted : List Json}
    (prepared : query.IsPrepared records kept sorted) (nonzero : size ≠ 0)
    (fits : kept.length < twoPow 64)
    : query.IsPaged cursorOf records size (PropertyPath.select query.paths sorted) := by
  have length := prepared.length_select query.paths
  have covered := List.take_of_length_le (length_le_pagesFilled nonzero
    (PropertyPath.select query.paths sorted))
  have words {place : Nat} (member : place ∈ List.range (PageRequest.pagesFilled size
      (PropertyPath.select query.paths sorted))) :=
    lt_twoPow_of_lt_pagesFilled nonzero (length ▸ fits) (List.mem_range.mp member)
  constructor
  case offsets =>
    rw [offsetPages,
      recordsOnAll_map fun place member => recordsOn_offset prepared (words member).1,
      flatMap_pages, covered]
  case numbers =>
    rw [numberedPages,
      recordsOnAll_map fun place member => recordsOn_paging prepared nonzero fits (words member).2,
      flatMap_pages, covered]
  case pastOffsets =>
    intro place past word
    rw [recordsOn_offset prepared word, page_eq_nil_of_pagesFilled_le nonzero past]
  case pastNumbers =>
    intro place past word
    rw [recordsOn_paging prepared nonzero fits word, page_eq_nil_of_pagesFilled_le nonzero past]
  case total =>
    intro sortKeys paths skip top answered
    cases sort : SortKey.sort sortKeys kept with
    | none => exact (answered (run_of_sort_eq_none prepared.filtered sort)).elim
    | some other =>
        rw [length]
        exact ⟨_, run_offset rfl ⟨prepared.filtered, sort⟩⟩

/-- The pages of a query whose filter can be evaluated on every record, and whose keys order the
accepted records transitively: they are the pages of the accepted records in their one stable order,
projected. No other keys that order them transitively stop such a query either.
-/
theorem isPaged_of_isDefinedOn (query : Query) (cursorOf : CursorKey) (records : List Json)
    {size : UInt64} (defined : Filter.IsDefinedOn query.filter records)
    (transitive : SortKey.IsTransitiveOn query.sortKeys
      (records.filter (Filter.passes query.filter)))
    (nonzero : size ≠ 0) (fits : records.length < twoPow 64)
    : ∃ sorted,
      SortKey.IsStableOrder query.sortKeys (records.filter (Filter.passes query.filter)) sorted
      ∧ (∀ other, SortKey.IsStableOrder query.sortKeys
          (records.filter (Filter.passes query.filter)) other → other = sorted)
      ∧ query.IsPaged cursorOf records size (PropertyPath.select query.paths sorted)
      ∧ ∀ sortKeys paths page,
        SortKey.IsTransitiveOn sortKeys (records.filter (Filter.passes query.filter))
        → run ⟨query.filter, sortKeys, paths, page⟩ cursorOf records ≠ .error .stopped := by
  have filtered := Filter.keepIf_of_isDefinedOn defined
  obtain ⟨sorted, sort, stable⟩ := SortKey.exists_sort transitive
  have few : (records.filter (Filter.passes query.filter)).length < twoPow 64 :=
    Nat.lt_of_le_of_lt (List.length_filter_le _ _) fits
  refine ⟨sorted, stable, fun other again => again.eq transitive stable, ?_, ?_⟩
  · exact IsPrepared.isPaged ⟨filtered, sort⟩ nonzero few
  · intro sortKeys paths page transitive' stopped
    obtain ⟨kept, filtered', unsorted⟩ := run_eq_stopped_iff.mp stopped
    obtain rfl := Except.ok.inj (filtered.symm.trans filtered')
    obtain ⟨_, sort', _⟩ := SortKey.exists_sort transitive'
    cases sort'.symm.trans unsorted

/-- Four records of which one is left out, by name and projected on it, in pages of two. -/
theorem isPaged_of_isDefinedOn_names
    : IsPaged
        ⟨some (.comparison .ne (.property ⟨"name", rfl, by decide⟩) (.literal (.string "c"))),
          [⟨⟨"name", rfl, by decide⟩, .ascending⟩], [⟨"name", rfl, by decide⟩], .offset 0 10⟩
        (PropertyPath.cursor ⟨"id", rfl, by decide⟩)
        [.object [("id", .string "1"), ("name", .string "b")],
          .object [("id", .string "2"), ("name", .string "c")],
          .object [("id", .string "3"), ("name", .string "a")],
          .object [("id", .string "4"), ("name", .string "b")]] 2
        [.object [("name", .string "a")], .object [("name", .string "b")],
          .object [("name", .string "b")]] := by
  obtain ⟨sorted, _, only, paged, _⟩ := isPaged_of_isDefinedOn
    ⟨some (.comparison .ne (.property ⟨"name", rfl, by decide⟩) (.literal (.string "c"))),
      [⟨⟨"name", rfl, by decide⟩, .ascending⟩], [⟨"name", rfl, by decide⟩], .offset 0 10⟩
    (PropertyPath.cursor ⟨"id", rfl, by decide⟩)
    [.object [("id", .string "1"), ("name", .string "b")],
      .object [("id", .string "2"), ("name", .string "c")],
      .object [("id", .string "3"), ("name", .string "a")],
      .object [("id", .string "4"), ("name", .string "b")]]
    (by rintro _ ⟨⟩ record _; exact ⟨_, rfl⟩) (by unfold SortKey.IsTransitiveOn; decide)
    (show (2 : UInt64) ≠ 0 by decide) (by decide)
  have order := only
    [.object [("id", .string "3"), ("name", .string "a")],
      .object [("id", .string "1"), ("name", .string "b")],
      .object [("id", .string "4"), ("name", .string "b")]]
    ⟨by decide, by decide, by decide⟩
  rw [← order] at paged
  exact paged

end Query

end RecordQuery
