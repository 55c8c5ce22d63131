import RecordQuery.Proofs.Query.CursorPages

/-! Walking through records by cursor. A client asks for the first page, and while more is told to
come, for the page after the last cursor it was told. Where all records have cursors of their own,
the pages before a request are a start of the records, and the cursor of the last record in them
finds the rest again.
-/

namespace RecordQuery.PageRequest

/-- The pages that a walk gets from a cursor on, until one tells that no more is to come. -/
inductive CursorWalk (cursorOf : CursorKey) (records : List Json) (top : UInt64)
    : Option String → List (List Json) → Prop where
  | last {after echoed last : Option String} {data : List Json}
      (answer : (cursor after top).page cursorOf records
        = .ok ⟨data, .cursor echoed top last false⟩)
      : CursorWalk cursorOf records top after [data]
  | next {after echoed last : Option String} {data : List Json} {rest : List (List Json)}
      (answer : (cursor after top).page cursorOf records
        = .ok ⟨data, .cursor echoed top last true⟩)
      (more : CursorWalk cursorOf records top last rest)
      : CursorWalk cursorOf records top after (data :: rest)

/-- Records that all have cursors which are not empty and differ from each other. -/
structure HasCursors (cursorOf : CursorKey) (records : List Json) : Prop where
  nonempty : ∀ record ∈ records, ∃ cursor, cursorOf record = some cursor ∧ cursor ≠ ""
  distinct : (records.map cursorOf).Nodup

/-- Records that all have cursors which differ from each other; one may be empty. -/
structure HasDistinctCursors (cursorOf : CursorKey) (records : List Json) : Prop where
  present : ∀ record ∈ records, ∃ cursor, cursorOf record = some cursor
  distinct : (records.map cursorOf).Nodup

theorem HasCursors.hasDistinctCursors {cursorOf : CursorKey} {records : List Json}
    (cursors : HasCursors cursorOf records)
    : HasDistinctCursors cursorOf records := by
  refine ⟨fun record member => ?_, cursors.distinct⟩
  obtain ⟨cursor, found, _⟩ := cursors.nonempty record member
  exact ⟨cursor, found⟩

-----------------------------------------------------------------------------------------
-- Records in pages of a size
-----------------------------------------------------------------------------------------

/-- The records in pages of a size, one page at least. -/
def inPages (size : Nat) (records : List Json) : List (List Json) :=
  (List.range (max 1 ((records.length + size - 1) / size))).map
    (fun place => (records.drop (place * size)).take size)

theorem inPages_of_le {size : Nat} {records : List Json} (pos : 0 < size)
    (fits : records.length ≤ size)
    : inPages size records = [records] := by
  have single : max 1 ((records.length + size - 1) / size) = 1 := by
    have few : (records.length + size - 1) / size < 2 := by
      rw [Nat.div_lt_iff_lt_mul pos]
      omega
    omega
  rw [inPages, single]
  simp [List.take_of_length_le fits]

/-- Of more records than fit a page, the first ones are a page, and the others have their pages. -/
theorem inPages_of_lt {size : Nat} {records : List Json} (pos : 0 < size)
    (more : size < records.length)
    : inPages size records = records.take size :: inPages size (records.drop size) := by
  have count : (records.length + size - 1) / size
      = (records.length - size + size - 1) / size + 1 := by
    rw [← Nat.add_div_right _ pos]
    congr 1
    omega
  have other : 1 ≤ (records.length - size + size - 1) / size := by
    rw [Nat.le_div_iff_mul_le pos]
    omega
  unfold inPages
  rw [List.length_drop, count, Nat.max_eq_right (Nat.le_add_left 1 _), Nat.max_eq_right other,
    List.range_succ_eq_map, List.map_cons, List.map_map]
  congr 1
  · simp
  · refine List.map_congr_left (fun place _ => ?_)
    simp only [Function.comp_apply, List.drop_drop, Nat.succ_mul, Nat.add_comm]

/-- The pages together are the records, by induction on how many there are. -/
theorem flatten_inPages {size : Nat} (pos : 0 < size) (records : List Json)
    : (inPages size records).flatten = records := by
  induction same : records.length using Nat.strongRecOn generalizing records with
  | ind count ih =>
      rcases Nat.lt_or_ge size records.length with more | fits
      · have shorter : (records.drop size).length < count := by
          rw [List.length_drop]
          omega
        rw [inPages_of_lt pos more, List.flatten_cons, ih _ shorter _ rfl,
          List.take_append_drop]
      · rw [inPages_of_le pos fits, List.flatten_singleton]

-----------------------------------------------------------------------------------------
-- A walk goes through the same pages
-----------------------------------------------------------------------------------------

section Walk

variable {cursorOf : CursorKey} {before rest : List Json} {top : UInt64}

/-- The cursor of the last record of a start of the records finds the rest. -/
theorem drop_startAfter (cursors : HasDistinctCursors cursorOf (before ++ rest))
    : (before ++ rest).drop (startAfter cursorOf (before.getLast?.bind cursorOf) (before ++ rest))
      = rest := by
  rcases List.eq_nil_or_concat before with rfl | ⟨init, last, rfl⟩
  · rfl
  · obtain ⟨wanted, found⟩ := cursors.present last (by simp)
    have distinct := cursors.distinct
    rw [List.concat_eq_append, List.append_assoc] at distinct ⊢
    rw [List.map_append, List.nodup_append] at distinct
    -- the first record with the cursor is the last one that was seen
    have earlier : init.findIdx? (fun record => decide (cursorOf record = some wanted)) = none := by
      rw [List.findIdx?_eq_none_iff]
      intro record member
      have other := distinct.2.2 (cursorOf record) (List.mem_map_of_mem member) (cursorOf last)
        (by simp)
      simpa [found] using other
    have place : startAfter cursorOf ((init ++ [last]).getLast?.bind cursorOf)
        (init ++ ([last] ++ rest)) = (init ++ [last]).length := by
      rw [List.getLast?_concat, Option.bind_some, found, startAfter]
      simp [List.findIdx?_append, earlier, List.findIdx?_cons, found]
    rw [place, ← List.append_assoc, List.drop_left]

/-- The last record of the page has the last cursor of all exactly where the rest fits the page. -/
theorem bne_last_cursor (cursors : HasDistinctCursors cursorOf (before ++ rest)) {size : Nat}
    {last : Json} (found : (rest.take size).getLast? = some last)
    : (cursorOf last != (before ++ rest).getLast?.bind cursorOf) = decide (size < rest.length) := by
  have told := @bne_tail_cursor_iff cursorOf before _ (rest.drop size) _ found
  rw [List.take_append_drop] at told
  rw [Bool.eq_iff_iff, told, decide_eq_true_iff]
  constructor
  · rintro ⟨tail, ends, _⟩
    have nonempty := List.ne_nil_of_mem (List.mem_of_getLast? ends)
    rw [ne_eq, List.drop_eq_nil_iff] at nonempty
    omega
  · intro more
    have nonempty : rest.drop size ≠ [] := by
      rw [ne_eq, List.drop_eq_nil_iff]
      omega
    obtain ⟨tail, ends⟩ := Option.ne_none_iff_exists'.mp (mt List.getLast?_eq_none_iff.mp nonempty)
    have distinct := cursors.distinct
    rw [← List.take_append_drop size rest, ← List.append_assoc, List.map_append,
      List.nodup_append] at distinct
    refine ⟨tail, ends, distinct.2.2 _ (List.mem_map_of_mem ?_) _ (List.mem_map_of_mem ?_)⟩
    · exact List.mem_append_right _ (List.mem_of_getLast? found)
    · exact List.mem_of_getLast? ends

/-- The page after a start of the records is the start of the rest, and more is told to come where
the rest does not fit. An empty cursor would be passed over.
-/
theorem cursorPage_after (cursors : HasDistinctCursors cursorOf (before ++ rest))
    (pos : 0 < top.toNat) (nonempty : before.getLast?.bind cursorOf ≠ some "")
    : cursorPage cursorOf (before.getLast?.bind cursorOf) top (before ++ rest)
      = ⟨rest.take top.toNat, .cursor (before.getLast?.bind cursorOf) top
          ((rest.take top.toNat).getLast?.bind cursorOf) (decide (top.toNat < rest.length))⟩ := by
  have kept : (before.getLast?.bind cursorOf).filter (· ≠ "") = before.getLast?.bind cursorOf := by
    cases last : before.getLast?.bind cursorOf with
    | none => rfl
    | some cursor =>
        have given : cursor ≠ "" := fun empty => nonempty (by rw [last, empty])
        exact Option.filter_eq_some_iff.mpr ⟨rfl, decide_eq_true given⟩
  rw [cursorPage_eq, kept, drop_startAfter cursors]
  cases found : (rest.take top.toNat).getLast? with
  | none =>
      have nothing : rest.take top.toNat = [] := List.getLast?_eq_none_iff.mp found
      have few : ¬ top.toNat < rest.length := by
        have length := congrArg List.length nothing
        rw [List.length_take, List.length_nil] at length
        omega
      simp [few]
  | some last => rw [Option.any_some, bne_last_cursor cursors found]

theorem page_after (cursors : HasCursors cursorOf (before ++ rest)) (pos : 0 < top.toNat)
    : (cursor (before.getLast?.bind cursorOf) top).page cursorOf (before ++ rest)
      = .ok ⟨rest.take top.toNat, .cursor (before.getLast?.bind cursorOf) top
          ((rest.take top.toNat).getLast?.bind cursorOf) (decide (top.toNat < rest.length))⟩ := by
  have nonempty : before.getLast?.bind cursorOf ≠ some "" := by
    cases last : before.getLast? with
    | none => simp
    | some record =>
        obtain ⟨wanted, found, given⟩ :=
          cursors.nonempty record (List.mem_append_left _ (List.mem_of_getLast? last))
        simpa [found] using given
  have nonzero : top ≠ 0 := by
    intro zero
    rw [zero] at pos
    exact absurd pos (by decide)
  rw [page_cursor cursorOf _ nonzero, cursorPage_after cursors.hasDistinctCursors pos nonempty]

/-- From each start of the records, a walk gets the pages of the rest, by induction on how many
records are left.
-/
theorem cursorWalk_after (cursors : HasCursors cursorOf (before ++ rest)) (pos : 0 < top.toNat)
    : CursorWalk cursorOf (before ++ rest) top (before.getLast?.bind cursorOf)
        (inPages top.toNat rest) := by
  induction same : rest.length using Nat.strongRecOn generalizing before rest with
  | ind count ih =>
      have answer := page_after cursors pos
      rcases Nat.lt_or_ge top.toNat rest.length with more | fits
      · have split : before ++ rest = (before ++ rest.take top.toNat) ++ rest.drop top.toNat := by
          rw [List.append_assoc, List.take_append_drop]
        have shorter : (rest.drop top.toNat).length < count := by
          rw [List.length_drop]
          omega
        have walk := ih _ shorter (split ▸ cursors) rfl
        have last : (before ++ rest.take top.toNat).getLast? = (rest.take top.toNat).getLast? := by
          cases found : (rest.take top.toNat).getLast? with
          | none =>
              rw [List.getLast?_eq_none_iff, List.take_eq_nil_iff] at found
              rcases found with none | rfl
              · omega
              · exact absurd more (Nat.not_lt_zero _)
          | some last => rw [List.getLast?_append, found, Option.some_or]
        rw [← split, last] at walk
        rw [decide_eq_true more] at answer
        rw [inPages_of_lt pos more]
        exact .next answer walk
      · rw [decide_eq_false (Nat.not_lt.mpr fits), List.take_of_length_le fits] at answer
        rw [inPages_of_le pos fits]
        exact .last answer

theorem CursorWalk.unique {records : List Json} {after : Option String}
    {pages others : List (List Json)} (walk : CursorWalk cursorOf records top after pages)
    (again : CursorWalk cursorOf records top after others)
    : pages = others := by
  induction walk generalizing others with
  | last answer =>
      cases again with
      | last answer' =>
          cases answer.symm.trans answer'
          rfl
      | next answer' =>
          cases answer.symm.trans answer'
  | next answer more ih =>
      cases again with
      | last answer' => cases answer.symm.trans answer'
      | next answer' more' =>
          cases answer.symm.trans answer'
          rw [ih more']

end Walk

/-- The page of a number starts behind as many records as the pages before it hold; where that many
records are no word, there are none behind them.
-/
theorem page_paging {cursorOf : CursorKey} {records : List Json} {size : UInt64} {place : Nat}
    (nonzero : size ≠ 0) (fits : records.length < twoPow 64) (word : place + 1 < twoPow 64)
    : (paging (UInt64.ofNat (place + 1)) size).page cursorOf records
      = .ok ⟨(records.drop (place * size.toNat)).take size.toNat,
          .paging (UInt64.ofNat (place + 1)) size (pageCount records.length size)⟩ := by
  have named : (UInt64.ofNat (place + 1)).toNat = place + 1 := UInt64.toNat_ofNat_of_lt' word
  have number : (UInt64.ofNat (place + 1) - 1).toNat = place := by
    have first : (1 : UInt64) ≤ UInt64.ofNat (place + 1) := by
      rw [UInt64.le_iff_toNat_le, named]
      exact Nat.le_add_left 1 place
    rw [UInt64.toNat_sub_of_le _ _ first, named]
    rfl
  have counted : UInt64.ofNat (place + 1) ≠ 0 := by
    intro zero
    rw [zero] at named
    exact absurd named (Nat.succ_ne_zero place).symm
  have checked : (paging (UInt64.ofNat (place + 1)) size).check = .ok () := by
    rw [check, if_neg nonzero, if_neg counted]
  have skips : records.drop (skipped (UInt64.ofNat (place + 1)) size)
      = records.drop (place * size.toNat) := by
    rw [skipped, number, Nat.mul_comm]
    rcases Nat.le_total (place * size.toNat) (twoPow 64 - 1) with below | above
    · rw [Nat.min_eq_left below]
    · have most : records.length ≤ twoPow 64 - 1 := Nat.le_sub_one_of_lt fits
      rw [Nat.min_eq_right above, List.drop_eq_nil_of_le most,
        List.drop_eq_nil_of_le (Nat.le_trans most above)]
  rw [page, checked, ← skips]
  rfl

/-- A page of a number holds the records of that page, counted from one. -/
theorem page_of_number {cursorOf : CursorKey} {records : List Json} {size : UInt64} {place : Nat}
    (pos : 0 < size.toNat) (fits : records.length < twoPow 64)
    (few : place < max 1 ((records.length + size.toNat - 1) / size.toNat))
    : ∃ summary, (paging (UInt64.ofNat (place + 1)) size).page cursorOf records
        = .ok ⟨(records.drop (place * size.toNat)).take size.toNat, summary⟩ := by
  have nonzero : size ≠ 0 := by
    rintro rfl
    exact absurd pos (by decide)
  have word : place + 1 < twoPow 64 := by
    have large : 1 < twoPow 64 := by decide
    by_cases first : place = 0
    · omega
    · have reached : place + 1 ≤ (records.length + size.toNat - 1) / size.toNat := by omega
      rw [Nat.le_div_iff_mul_le pos, Nat.add_mul, Nat.one_mul] at reached
      have least := Nat.mul_le_mul_left place pos
      omega
  exact ⟨_, page_paging nonzero fits word⟩

/-- A walk over records with cursors of their own. It ends, with all records in pages in their
order; there are as many pages as it takes to hold them, one at least; and each page has the records
that are on the page of its number, where pages can be numbered in a word.
-/
theorem cursorWalk_covers (cursorOf : CursorKey) (records : List Json) (top : UInt64)
    (cursors : HasCursors cursorOf records) (nonzero : top ≠ 0)
    : ∃ pages, CursorWalk cursorOf records top none pages
        ∧ (∀ others, CursorWalk cursorOf records top none others → others = pages)
        ∧ pages.length = max 1 ((records.length + top.toNat - 1) / top.toNat)
        ∧ pages.flatten = records
        ∧ (records.length < twoPow 64 → ∀ place data, pages[place]? = some data
          → ∃ summary, (paging (UInt64.ofNat (place + 1)) top).page cursorOf records
            = .ok ⟨data, summary⟩) := by
  have pos : 0 < top.toNat := by
    refine Nat.pos_of_ne_zero (fun zero => nonzero ?_)
    exact UInt64.toNat_inj.mp zero
  have start : HasCursors cursorOf ([] ++ records) := cursors
  have walk : CursorWalk cursorOf records top none (inPages top.toNat records) :=
    cursorWalk_after start pos
  refine ⟨inPages top.toNat records, walk, fun others again => again.unique walk, ?_,
    flatten_inPages pos records, ?_⟩
  · rw [inPages, List.length_map, List.length_range]
  · intro fits place data found
    rw [inPages, List.getElem?_map, Option.map_eq_some_iff] at found
    obtain ⟨_, listed, rfl⟩ := found
    rw [List.getElem?_eq_some_iff] at listed
    obtain ⟨few, rfl⟩ := listed
    rw [List.length_range] at few
    rw [List.getElem_range]
    exact page_of_number pos fits few

/-- Three records that are walked through in pages of two. -/
theorem cursorWalk_covers_three
    : ∃ pages, CursorWalk (PropertyPath.cursor ⟨"id", rfl, by decide⟩)
          [.object [("id", .string "a")], .object [("id", .string "b")],
            .object [("id", .string "c")]] 2 none pages
        ∧ pages.length = 2
        ∧ pages.flatten = [.object [("id", .string "a")], .object [("id", .string "b")],
            .object [("id", .string "c")]] := by
  have cursors : HasCursors (PropertyPath.cursor ⟨"id", rfl, by decide⟩)
      [.object [("id", .string "a")], .object [("id", .string "b")],
        .object [("id", .string "c")]] := by
    refine ⟨?_, by decide⟩
    simp only [List.forall_mem_cons]
    exact ⟨⟨"a", by decide, by decide⟩, ⟨"b", by decide, by decide⟩,
      ⟨"c", by decide, by decide⟩, by simp⟩
  obtain ⟨pages, walk, _, length, flatten, _⟩ := cursorWalk_covers _ _ 2 cursors (by decide)
  exact ⟨pages, walk, length, flatten⟩

end RecordQuery.PageRequest
