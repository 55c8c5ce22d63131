import RecordQuery.Proofs.Query.CursorRequests
import RecordQuery.Proofs.Query.CursorWalk
import RecordQuery.Proofs.Query.ProjectedPaging
import RecordQuery.Proofs.Service.Results

/-! A client that pages through an endpoint by cursor: it sends the cursor of each answer back with
the next query string, until an answer tells that no more is to come. A blank cursor counts as none,
so that the client is back at the first page after a page that ends with one.
-/

namespace RecordQuery

namespace PageRequest

variable {cursorOf : CursorKey} {records : List Json} {top : UInt64} {place : Nat}

/-- The cursor in front of a page: the one of the last record of the pages before it. -/
def cursorBefore (cursorOf : CursorKey) (top : UInt64) (records : List Json) (place : Nat)
    : Option String :=
  (records.take (place * top.toNat)).getLast?.bind cursorOf

/-- A page that is not the first has a blank cursor in front of it. -/
def HasBlankPageEnd (cursorOf : CursorKey) (top : UInt64) (records : List Json) : Prop :=
  ∃ place, place * top.toNat < records.length
    ∧ (cursorBefore cursorOf top records place).any Text.isAllBlank

theorem cursorBefore_zero : cursorBefore cursorOf top records 0 = none := by
  rw [cursorBefore, Nat.zero_mul]
  rfl

/-- The last record of a page is the last one before the next page. -/
theorem getLast?_page (starts : place * top.toNat < records.length ∨ place = 0)
    (pos : 0 < top.toNat)
    : ((records.drop (place * top.toNat)).take top.toNat).getLast?.bind cursorOf
      = cursorBefore cursorOf top records (place + 1) := by
  rw [cursorBefore, Nat.succ_mul, List.take_add, List.getLast?_append]
  cases found : ((records.drop (place * top.toNat)).take top.toNat).getLast? with
  | some last => rfl
  | none =>
      -- only the first page may be empty
      rw [List.getLast?_eq_none_iff, List.take_eq_nil_iff, List.drop_eq_nil_iff] at found
      rcases starts with starts | rfl
      · omega
      · rw [Nat.zero_mul]
        rfl

/-- The page behind a cursor that is not blank. -/
theorem cursorPage_place (cursors : HasDistinctCursors cursorOf records) (pos : 0 < top.toNat)
    (starts : place * top.toNat < records.length ∨ place = 0)
    (nonempty : cursorBefore cursorOf top records place ≠ some "")
    : cursorPage cursorOf (cursorBefore cursorOf top records place) top records
      = ⟨(records.drop (place * top.toNat)).take top.toNat,
          .cursor (cursorBefore cursorOf top records place) top
            (cursorBefore cursorOf top records (place + 1))
            (decide ((place + 1) * top.toNat < records.length))⟩ := by
  have split := List.take_append_drop (place * top.toNat) records
  have page := cursorPage_after (split.symm ▸ cursors) pos nonempty
  have more : (top.toNat < (records.drop (place * top.toNat)).length)
      = ((place + 1) * top.toNat < records.length) := by
    rw [List.length_drop, Nat.succ_mul]
    exact propext (by omega)
  rw [split, getLast?_page starts pos] at page
  simp only [more] at page
  exact page

/-- The cursor that counts for the next request is the one in front of some page: of the page that
is asked for, or of the first one.
-/
theorem givenCursor_cursorBefore (cursorOf : CursorKey) (top : UInt64) (records : List Json)
    (place : Nat)
    : givenCursor (cursorBefore cursorOf top records place)
      = if (cursorBefore cursorOf top records place).any Text.isAllBlank
        then cursorBefore cursorOf top records 0
        else cursorBefore cursorOf top records place := by
  rw [cursorBefore_zero]
  unfold givenCursor
  cases cursorBefore cursorOf top records place with
  | none => rfl
  | some wanted =>
      cases blank : Text.isAllBlank wanted <;> simp [blank]

theorem ne_empty_of_not_blank {after : Option String} (given : ¬ after.any Text.isAllBlank)
    : after ≠ some "" := by
  rintro rfl
  exact given rfl

/-- There is a cursor in front of each page but the first. -/
theorem exists_cursorBefore (cursors : HasDistinctCursors cursorOf records)
    (nonempty : records ≠ []) (later : 0 < place * top.toNat)
    : ∃ wanted, cursorBefore cursorOf top records place = some wanted := by
  have some : records.take (place * top.toNat) ≠ [] := by
    rw [ne_eq, List.take_eq_nil_iff]
    rintro (none | none)
    · omega
    · exact nonempty none
  obtain ⟨last, ends⟩ := Option.ne_none_iff_exists'.mp (mt List.getLast?_eq_none_iff.mp some)
  obtain ⟨wanted, found⟩ :=
    cursors.present last (List.mem_of_mem_take (List.mem_of_getLast? ends))
  exact ⟨wanted, by rw [cursorBefore, ends, Option.bind_some, found]⟩

/-- Where no page ends with a blank cursor, none is in front of a page. -/
theorem not_blank_cursorBefore (visible : ¬ HasBlankPageEnd cursorOf top records)
    (starts : place * top.toNat < records.length ∨ place = 0)
    : ¬ (cursorBefore cursorOf top records place).any Text.isAllBlank := by
  intro blank
  rcases starts with starts | rfl
  · exact visible ⟨place, starts, blank⟩
  · rw [cursorBefore_zero] at blank
    cases blank

/-- Up to a page with a blank cursor in front of it, the cursor that counts for the next request is
the one in front of an earlier page, and is not blank.
-/
theorem exists_givenCursor_eq {blankPlace : Nat}
    (blank : (cursorBefore cursorOf top records blankPlace).any Text.isAllBlank)
    (upTo : place ≤ blankPlace)
    : ∃ start < blankPlace,
      givenCursor (cursorBefore cursorOf top records place)
        = cursorBefore cursorOf top records start
      ∧ ¬ (cursorBefore cursorOf top records start).any Text.isAllBlank := by
  rw [givenCursor_cursorBefore]
  split
  · next hidden =>
      have later : blankPlace ≠ 0 := by
        rintro rfl
        rw [cursorBefore_zero] at blank
        cases blank
      refine ⟨0, Nat.pos_of_ne_zero later, rfl, ?_⟩
      rw [cursorBefore_zero]
      exact Bool.false_ne_true
  · next shown =>
      have other : place ≠ blankPlace := by
        rintro rfl
        exact shown blank
      exact ⟨place, Nat.lt_of_le_of_ne upTo other, rfl, shown⟩

end PageRequest

/-- A store has an endpoint under an id that clients use, with some records and the path to their
cursors.
-/
def Store.Serves (store : Store) (id : String) (records : List Json) (path : PropertyPath) : Prop :=
  ∃ endpoint, store.found (Endpoint.anyStoreId id) = .ok endpoint
    ∧ Collection.parse endpoint.raw = .ok records
    ∧ PropertyPath.parse endpoint.idProperty = .ok path

namespace Service

/-- The pages that a client gets from an endpoint from a cursor on, until an answer tells that no
more is to come. Each answer may leave another store for the next query.
-/
inductive CursorSession (settings : QuerySettings) (id : String) (top : UInt64)
    : Store → Option String → List (List Json) → Prop where
  | last {store after asked data echoed last left}
      (answer : store.perform (query settings id (PageRequest.cursorText after top))
        = (.ok ⟨asked, ⟨data, .cursor echoed top last false⟩⟩, left))
      : CursorSession settings id top store after [data]
  | next {store after asked data echoed last left rest}
      (answer : store.perform (query settings id (PageRequest.cursorText after top))
        = (.ok ⟨asked, ⟨data, .cursor echoed top (some last) true⟩⟩, left))
      (more : CursorSession settings id top left (some last) rest)
      : CursorSession settings id top store after (data :: rest)

variable {settings : QuerySettings} {store : Store} {id : String} {records : List Json}
  {path : PropertyPath} {top : UInt64} {place : Nat}

/-- What a query by cursor is answered with. -/
theorem perform_query_cursorText (settings : QuerySettings)
    (serves : store.Serves id records path) (nonzero : top ≠ 0) (after : Option String)
    : store.perform (query settings id (PageRequest.cursorText after top))
      = (.ok ⟨⟨none, [], [], .cursor (PageRequest.givenCursor after) top⟩,
          PageRequest.cursorPage path.cursor (PageRequest.givenCursor after) top records⟩,
        store) := by
  obtain ⟨endpoint, found, parsed, named⟩ := serves
  have asked := PageRequest.ofString_cursorText settings.pageDefaults after nonzero
  have run : Query.run ⟨none, [], [], .cursor (PageRequest.givenCursor after) top⟩ path.cursor
      records = .ok ⟨⟨none, [], [], .cursor (PageRequest.givenCursor after) top⟩,
        PageRequest.cursorPage path.cursor (PageRequest.givenCursor after) top records⟩ :=
    (Query.run_cursor_eq_ok_iff rfl).mpr ⟨records, records, ⟨rfl, rfl⟩, nonzero, rfl⟩
  rw [perform_query, found, Except.mapError, Except.bind, answer_eq parsed named, Query.answer,
    asked]
  dsimp only [bind, Except.bind, Except.mapError]
  rw [run]

/-- The answer after the cursor in front of a page, which is not blank. -/
theorem perform_query_cursorBefore (settings : QuerySettings)
    (serves : store.Serves id records path)
    (cursors : PageRequest.HasDistinctCursors path.cursor records) (nonzero : top ≠ 0)
    (starts : place * top.toNat < records.length ∨ place = 0) {after : Option String}
    (given : PageRequest.givenCursor after = PageRequest.cursorBefore path.cursor top records place)
    (visible : ¬ (PageRequest.cursorBefore path.cursor top records place).any Text.isAllBlank)
    : ∃ asked echoed, store.perform (query settings id (PageRequest.cursorText after top))
      = (.ok ⟨asked, ⟨(records.drop (place * top.toNat)).take top.toNat,
          .cursor echoed top (PageRequest.cursorBefore path.cursor top records (place + 1))
            (decide ((place + 1) * top.toNat < records.length))⟩⟩, store) := by
  have pos : 0 < top.toNat := UInt64.pos_iff_ne_zero.mpr nonzero
  have page := PageRequest.cursorPage_place cursors pos starts
    (PageRequest.ne_empty_of_not_blank visible)
  rw [perform_query_cursorText settings serves nonzero, given, page]
  exact ⟨_, _, rfl⟩

/-- The session from the cursor in front of a page on, by induction on how many records are left. -/
theorem cursorSession_from (serves : store.Serves id records path)
    (cursors : PageRequest.HasDistinctCursors path.cursor records) (nonzero : top ≠ 0)
    (visible : ¬ PageRequest.HasBlankPageEnd path.cursor top records)
    (starts : place * top.toNat < records.length ∨ place = 0)
    : CursorSession settings id top store (PageRequest.cursorBefore path.cursor top records place)
        (PageRequest.inPages top.toNat (records.drop (place * top.toNat))) := by
  induction left : records.length - place * top.toNat using Nat.strongRecOn generalizing place with
  | ind count ih =>
      have pos : 0 < top.toNat := UInt64.pos_iff_ne_zero.mpr nonzero
      have shown := PageRequest.not_blank_cursorBefore visible starts
      have given : PageRequest.givenCursor (PageRequest.cursorBefore path.cursor top records place)
          = PageRequest.cursorBefore path.cursor top records place := by
        rw [PageRequest.givenCursor_cursorBefore, if_neg shown]
      obtain ⟨asked, echoed, answer⟩ :=
        perform_query_cursorBefore settings serves cursors nonzero starts given shown
      have next : (place + 1) * top.toNat = place * top.toNat + top.toNat := Nat.succ_mul _ _
      rcases Nat.lt_or_ge ((place + 1) * top.toNat) records.length with more | fits
      · have rest : top.toNat < (records.drop (place * top.toNat)).length := by
          rw [List.length_drop]
          omega
        obtain ⟨wanted, found⟩ := PageRequest.exists_cursorBefore cursors
          (List.ne_nil_of_length_pos (Nat.zero_lt_of_lt more)) (next ▸ Nat.add_pos_right _ pos)
        have session := ih _ (by omega) (.inl more) rfl
        rw [decide_eq_true more, found] at answer
        rw [found] at session
        rw [PageRequest.inPages_of_lt pos rest, List.drop_drop, ← next]
        exact .next answer session
      · have rest : (records.drop (place * top.toNat)).length ≤ top.toNat := by
          rw [List.length_drop]
          omega
        rw [decide_eq_false (Nat.not_lt.mpr fits), List.take_of_length_le rest] at answer
        rw [PageRequest.inPages_of_le pos rest]
        exact .last answer

theorem CursorSession.unique {after : Option String} {pages others : List (List Json)}
    (session : CursorSession settings id top store after pages)
    (again : CursorSession settings id top store after others)
    : pages = others := by
  induction session generalizing others with
  | last answer =>
      cases again with
      | last answer' =>
          cases answer.symm.trans answer'
          rfl
      | next answer' => cases answer.symm.trans answer'
  | next answer more ih =>
      cases again with
      | last answer' => cases answer.symm.trans answer'
      | next answer' more' =>
          cases answer.symm.trans answer'
          rw [ih more']

/-- No session gets past a blank cursor in front of a page: after the cursors in front of the pages
up to that one, a client is told of such a cursor again, by induction on the session.
-/
theorem not_cursorSession_from {blankPlace : Nat} {after : Option String}
    {pages : List (List Json)} (cursors : PageRequest.HasDistinctCursors path.cursor records)
    (nonzero : top ≠ 0) (inside : blankPlace * top.toNat < records.length)
    (blank : (PageRequest.cursorBefore path.cursor top records blankPlace).any Text.isAllBlank)
    (session : CursorSession settings id top store after pages)
    : store.Serves id records path → ∀ place ≤ blankPlace,
      after ≠ PageRequest.cursorBefore path.cursor top records place := by
  have answered {store : Store} (serves : store.Serves id records path) {place : Nat}
      (upTo : place ≤ blankPlace)
      : ∃ start < blankPlace, ∃ asked data echoed,
        store.perform (query settings id
          (PageRequest.cursorText (PageRequest.cursorBefore path.cursor top records place) top))
        = (.ok ⟨asked, ⟨data, .cursor echoed top
            (PageRequest.cursorBefore path.cursor top records (start + 1)) true⟩⟩, store) := by
    obtain ⟨start, before, given, shown⟩ := PageRequest.exists_givenCursor_eq blank upTo
    have within : (start + 1) * top.toNat < records.length :=
      Nat.lt_of_le_of_lt (Nat.mul_le_mul_right _ before) inside
    have starts : start * top.toNat < records.length :=
      Nat.lt_of_le_of_lt (Nat.mul_le_mul_right _ (Nat.le_succ start)) within
    obtain ⟨asked, echoed, answer⟩ :=
      perform_query_cursorBefore settings serves cursors nonzero (.inl starts) given shown
    rw [decide_eq_true within] at answer
    exact ⟨start, before, asked, _, echoed, answer⟩
  induction session with
  | last answer =>
      rintro serves place upTo rfl
      obtain ⟨_, _, _, _, _, answer'⟩ := answered serves upTo
      cases answer.symm.trans answer'
  | next answer more ih =>
      rintro serves place upTo rfl
      obtain ⟨start, before, _, _, _, answer'⟩ := answered serves upTo
      have same := answer.symm.trans answer'
      simp only [Prod.mk.injEq, Except.ok.injEq, QueryResult.mk.injEq, Page.mk.injEq,
        PageSummary.cursor.injEq] at same
      obtain ⟨⟨_, _, _, _, last, _⟩, rfl⟩ := same
      exact ih serves (start + 1) before last

/-- Paging through an endpoint whose records all have cursors of their own. Where no page but the
last ends with a blank cursor, the client is told that no more is to come after finitely many
queries, and has then got every record once, in order. Otherwise it is never told.
-/
theorem cursorSession_covers (settings : QuerySettings) (store : Store) (id : String)
    (records : List Json) (path : PropertyPath) (top : UInt64)
    (serves : store.Serves id records path)
    (cursors : PageRequest.HasDistinctCursors path.cursor records) (nonzero : top ≠ 0)
    : (¬ PageRequest.HasBlankPageEnd path.cursor top records
        → ∃ pages, CursorSession settings id top store none pages
          ∧ (∀ others, CursorSession settings id top store none others → others = pages)
          ∧ pages.flatten = records)
      ∧ (PageRequest.HasBlankPageEnd path.cursor top records
        → ∀ pages, ¬ CursorSession settings id top store none pages) := by
  constructor
  · intro visible
    have pos : 0 < top.toNat := UInt64.pos_iff_ne_zero.mpr nonzero
    have session : CursorSession settings id top store _ _ :=
      cursorSession_from serves cursors nonzero visible (.inr rfl)
    rw [PageRequest.cursorBefore_zero, Nat.zero_mul, List.drop_zero] at session
    exact ⟨_, session, fun others again => again.unique session,
      PageRequest.flatten_inPages pos records⟩
  · rintro ⟨blankPlace, inside, blank⟩ pages session
    exact not_cursorSession_from cursors nonzero inside blank session serves 0 (Nat.zero_le _)
      PageRequest.cursorBefore_zero.symm

/-- Records that have ids and nothing else. -/
def idRecords (ids : List String) : List Json :=
  ids.map fun id => .object [("id", .string id)]

/-- Ids that differ from each other are cursors of their own. -/
theorem hasDistinctCursors_idRecords {ids : List String} (distinct : ids.Nodup)
    : PageRequest.HasDistinctCursors (PropertyPath.cursor ⟨"id", rfl, by decide⟩)
        (idRecords ids) where
  present := by
    intro record member
    obtain ⟨id, _, rfl⟩ := List.mem_map.mp member
    exact ⟨id, rfl⟩
  distinct := by
    have told : (idRecords ids).map (PropertyPath.cursor ⟨"id", rfl, by decide⟩)
        = ids.map some := by
      rw [idRecords, List.map_map]
      rfl
    rw [told]
    exact List.pairwise_map.mpr (distinct.imp fun differ same => differ (Option.some.inj same))

/-- Three records with cursors that have to be escaped, in pages of one. -/
theorem cursorSession_covers_three
    : ∃ pages, CursorSession .standard "1" 1
        ⟨[⟨"rec1", "id",
          "[\x7b\"id\":\"a b\"\x7d,\x7b\"id\":\"&\"\x7d,\x7b\"id\":\"é\"\x7d]"⟩], 100, Nat.repr, 2⟩
        none pages
      ∧ pages.flatten = idRecords ["a b", "&", "é"] := by
  have read : Json.read?
        "[\x7b\"id\":\"a b\"\x7d,\x7b\"id\":\"&\"\x7d,\x7b\"id\":\"é\"\x7d]"
      = some (.array (idRecords ["a b", "&", "é"])) := by
    decide +kernel
  have visible : ¬ PageRequest.HasBlankPageEnd (PropertyPath.cursor ⟨"id", rfl, by decide⟩) 1
      (idRecords ["a b", "&", "é"]) := by
    rintro ⟨place, inside, blank⟩
    have none : ∀ place < 3, ¬ (PageRequest.cursorBefore
        (PropertyPath.cursor ⟨"id", rfl, by decide⟩) 1 (idRecords ["a b", "&", "é"]) place).any
          Text.isAllBlank := by
      decide
    exact none place (Nat.mul_one place ▸ inside) blank
  have serves : Store.Serves
      ⟨[⟨"rec1", "id",
        "[\x7b\"id\":\"a b\"\x7d,\x7b\"id\":\"&\"\x7d,\x7b\"id\":\"é\"\x7d]"⟩], 100, Nat.repr, 2⟩
      "1" (idRecords ["a b", "&", "é"]) ⟨"id", rfl, by decide⟩ :=
    ⟨_, rfl, by rw [Collection.parse, read], rfl⟩
  have covered := cursorSession_covers .standard _ "1" (idRecords ["a b", "&", "é"]) _ 1 serves
    (hasDistinctCursors_idRecords (by decide)) (by decide)
  obtain ⟨pages, session, _, all⟩ := covered.1 visible
  exact ⟨pages, session, all⟩

/-- A client does not get past a blank cursor: with pages of one, it asks for the first of three
records again and again.
-/
theorem not_cursorSession_covers
    : ¬ ∀ (settings : QuerySettings) (store : Store) (id : String) (records : List Json)
        (path : PropertyPath) (top : UInt64), store.Serves id records path
        → PageRequest.HasDistinctCursors path.cursor records → top ≠ 0
        → ∃ pages, CursorSession settings id top store none pages ∧ pages.flatten = records := by
  intro claimed
  have read : Json.read?
        "[\x7b\"id\":\"a\"\x7d,\x7b\"id\":\" \"\x7d,\x7b\"id\":\"b\"\x7d]"
      = some (.array (idRecords ["a", " ", "b"])) := by
    decide +kernel
  have serves : Store.Serves
      ⟨[⟨"rec1", "id",
        "[\x7b\"id\":\"a\"\x7d,\x7b\"id\":\" \"\x7d,\x7b\"id\":\"b\"\x7d]"⟩], 100, Nat.repr, 2⟩
      "1" (idRecords ["a", " ", "b"]) ⟨"id", rfl, by decide⟩ :=
    ⟨_, rfl, by rw [Collection.parse, read], rfl⟩
  have cursors : PageRequest.HasDistinctCursors _ (idRecords ["a", " ", "b"]) :=
    hasDistinctCursors_idRecords (by decide)
  obtain ⟨pages, session, _⟩ := claimed .standard _ "1" _ _ 1 serves cursors (by decide)
  have blank : (PageRequest.cursorBefore (PropertyPath.cursor ⟨"id", rfl, by decide⟩) 1
      (idRecords ["a", " ", "b"]) 2).any Text.isAllBlank := by
    decide
  exact not_cursorSession_from cursors (by decide) (by decide) blank session serves 0
    (Nat.zero_le 2) PageRequest.cursorBefore_zero.symm

end Service

end RecordQuery
