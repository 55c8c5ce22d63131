import RecordQuery.Proofs.Query.CursorPages

/-! What a page by cursor tells of the records around it. It starts behind the first record that has
the cursor. More is told to come only where records follow the page; and it is told wherever records
follow, as long as no other record shares the cursor, or the lack of one, with the last record of all.
-/

namespace RecordQuery.PageRequest

/-- The records in front of the page after a cursor: those up to the first one that has the cursor,
or none if no record has it, or if an empty cursor is asked for, or no cursor.
-/
inductive IsInFront (cursorOf : CursorKey) (after : Option String) (records : List Json)
    : List Json → Prop
  | found {wanted : String} {before rest : List Json} {record : Json} (asked : after = some wanted)
    (nonempty : wanted ≠ "") (split : records = before ++ record :: rest)
    (has : cursorOf record = some wanted) (first : ∀ other ∈ before, cursorOf other ≠ some wanted)
    : IsInFront cursorOf after records (before ++ [record])
  | nothing (nowhere : ∀ wanted, after = some wanted → wanted ≠ ""
      → ∀ record ∈ records, cursorOf record ≠ some wanted)
    : IsInFront cursorOf after records []

/-- No other record has the cursor of the last one, or has none as the last one has none. -/
def HasOwnTailCursor (cursorOf : CursorKey) (records : List Json) : Prop :=
  ∀ tail ∈ records.getLast?, ∀ other ∈ records.dropLast, cursorOf other ≠ cursorOf tail

variable {cursorOf : CursorKey} {front data following : List Json}

/-- What is in front of a page is all before the place where the page starts. -/
theorem isInFront_take_startAfter (cursorOf : CursorKey) (after : Option String)
    (records : List Json)
    : IsInFront cursorOf after records
        (records.take (startAfter cursorOf (after.filter (· ≠ "")) records)) := by
  cases kept : after.filter (· ≠ "") with
  | none =>
      refine .nothing fun wanted asked nonempty => ?_
      simp [asked, nonempty] at kept
  | some wanted =>
      obtain ⟨asked, nonempty⟩ := Option.filter_eq_some_iff.mp kept
      rw [startAfter]
      cases placed : records.findIdx? (fun record => cursorOf record = some wanted) with
      | none =>
          refine .nothing fun other asked' _ record member => ?_
          cases asked.symm.trans asked'
          simpa using List.findIdx?_eq_none_iff.mp placed record member
      | some place =>
          obtain ⟨bound, has, first⟩ := List.findIdx?_eq_some_iff_getElem.mp placed
          have split : records = records.take place ++ records[place] :: records.drop (place + 1) := by
            rw [List.getElem_cons_drop, List.take_append_drop]
          have seen : ∀ other ∈ records.take place, cursorOf other ≠ some wanted := by
            intro other member
            obtain ⟨earlier, less, rfl⟩ := List.mem_take_iff_getElem.mp member
            simpa using first earlier (by omega)
          dsimp only
          rw [← List.take_append_getElem bound]
          exact .found asked (of_decide_eq_true nonempty) split (of_decide_eq_true has) seen

/-- A record of a page that others follow is not the last one of all. -/
theorem mem_dropLast_of_follows (follows : following ≠ []) {record : Json} (member : record ∈ data)
    : record ∈ (front ++ (data ++ following)).dropLast := by
  rw [← List.append_assoc, List.dropLast_append_of_ne_nil follows]
  exact List.mem_append_left _ (List.mem_append_right _ member)

/-- More is told to come where records follow the page and the last of these has another cursor. -/
theorem any_bne_tail_cursor_iff
    : data.getLast?.any (fun last => cursorOf last
        != (front ++ (data ++ following)).getLast?.bind cursorOf) = true
      ↔ ∃ last tail, data.getLast? = some last ∧ following.getLast? = some tail
        ∧ cursorOf last ≠ cursorOf tail := by
  cases ends : data.getLast? with
  | none => simp
  | some last =>
      rw [Option.any_some, bne_tail_cursor_iff ends]
      simp

/-- The page after a cursor lies between the records in front of it and those that follow. That more
is to come is told only of a page that is not empty and that records follow. It is told of each such
page if no other record has the cursor of the last one, or has none as that.
-/
theorem page_cursor_hasNext (cursorOf : CursorKey) (after : Option String) (top : UInt64)
    (records : List Json) (nonzero : top ≠ 0)
    : ∃ front data following hasNext,
        records = front ++ (data ++ following)
        ∧ (cursor after top).page cursorOf records
          = .ok ⟨data, .cursor (after.filter (· ≠ "")) top (data.getLast?.bind cursorOf) hasNext⟩
        ∧ IsInFront cursorOf after records front
        ∧ data.length = min top.toNat (data ++ following).length
        ∧ (hasNext = true → data ≠ [] ∧ following ≠ [])
        ∧ (data ≠ [] → following ≠ [] → HasOwnTailCursor cursorOf records → hasNext = true) := by
  have inFront := isInFront_take_startAfter cursorOf after records
  have answer := page_cursor cursorOf after nonzero records
  rw [cursorPage_eq] at answer
  generalize startAfter cursorOf (after.filter (· ≠ "")) records = start at inFront answer
  have split : records = records.take start
      ++ ((records.drop start).take top.toNat ++ (records.drop start).drop top.toNat) := by
    rw [List.take_append_drop, List.take_append_drop]
  have length : ((records.drop start).take top.toNat).length
      = min top.toNat ((records.drop start).take top.toNat
        ++ (records.drop start).drop top.toNat).length := by
    rw [List.take_append_drop, List.length_take]
  generalize (records.drop start).take top.toNat = data at split length answer
  generalize (records.drop start).drop top.toNat = following at split length
  generalize records.take start = front at split inFront
  subst split
  refine ⟨front, data, following, _, rfl, answer, inFront, length, ?_, ?_⟩
  · intro told
    obtain ⟨last, tail, ends, follows, _⟩ := any_bne_tail_cursor_iff.mp told
    exact ⟨List.ne_nil_of_mem (List.mem_of_getLast? ends),
      List.ne_nil_of_mem (List.mem_of_getLast? follows)⟩
  · intro nonempty followed own
    have ends := List.getLast?_eq_some_getLast nonempty
    have follows := List.getLast?_eq_some_getLast followed
    refine any_bne_tail_cursor_iff.mpr ⟨_, _, ends, follows, own _ ?_ _ ?_⟩
    · rw [List.getLast?_append, List.getLast?_append, follows]
      rfl
    · exact mem_dropLast_of_follows followed (List.getLast_mem nonempty)

/-- The page of one record after the first of three lies before the third, and tells of more. -/
theorem page_cursor_hasNext_three
    : ∃ front following,
        [.object [("id", .string "a")], .object [("id", .string "b")],
          .object [("id", .string "c")]] = front ++ ([.object [("id", .string "b")]] ++ following)
        ∧ IsInFront (PropertyPath.cursor ⟨"id", rfl, by decide⟩) (some "a")
          [.object [("id", .string "a")], .object [("id", .string "b")],
            .object [("id", .string "c")]] front
        ∧ following ≠ [] := by
  obtain ⟨front, data, following, hasNext, split, answer, inFront, _, told, _⟩ :=
    page_cursor_hasNext (PropertyPath.cursor ⟨"id", rfl, by decide⟩) (some "a") 1
      [.object [("id", .string "a")], .object [("id", .string "b")],
        .object [("id", .string "c")]] (by decide)
  have page : (cursor (some "a") 1).page (PropertyPath.cursor ⟨"id", rfl, by decide⟩)
      [.object [("id", .string "a")], .object [("id", .string "b")],
        .object [("id", .string "c")]]
      = .ok ⟨[.object [("id", .string "b")]], .cursor (some "a") 1 (some "b") true⟩ := rfl
  rw [page] at answer
  injection answer with answer
  injection answer with data summary
  injection summary with _ _ _ more
  subst data
  exact ⟨front, following, split, inFront, (told more.symm).2⟩

end RecordQuery.PageRequest
