import RecordQuery.Query.Paging

/-! Pages by cursor: where one starts, what it tells, and how it changes with the records. A change
that keeps cursors can be made before or after; records without cursors have only a first page.
-/

namespace RecordQuery

/-- The page of the changed records. -/
def Page.map (change : Json → Json) (page : Page) : Page :=
  ⟨page.records.map change, page.summary⟩

namespace PageRequest

variable {cursorOf : CursorKey} {records : List Json} {after : Option String} {top : UInt64}

/-- A page that is not empty by request is given for every cursor. -/
theorem page_cursor (cursorOf : CursorKey) (after : Option String) {top : UInt64}
    (nonzero : top ≠ 0) (records : List Json)
    : (cursor after top).page cursorOf records = .ok (cursorPage cursorOf after top records) := by
  have checked : (cursor after top).check = .ok () := by
    rw [check, if_neg nonzero]
  rw [page, checked]
  rfl

/-- The page after a cursor without a case for the empty one, on which no record has a cursor. -/
theorem cursorPage_eq (cursorOf : CursorKey) (after : Option String) (top : UInt64)
    (records : List Json)
    : let kept := after.filter (· ≠ "")
      let data := (records.drop (startAfter cursorOf kept records)).take top.toNat
      cursorPage cursorOf after top records
        = ⟨data, .cursor kept top (data.getLast?.bind cursorOf)
            (data.getLast?.any (fun last => cursorOf last != records.getLast?.bind cursorOf))⟩ := by
  unfold cursorPage
  dsimp only
  cases ((records.drop (startAfter cursorOf (after.filter (· ≠ "")) records)).take
      top.toNat).getLast? with
  | none => rfl
  | some last => rfl

/-- A change that keeps cursors keeps the place where a page starts. -/
theorem startAfter_map {change : Json → Json}
    (keeps : ∀ record, cursorOf (change record) = cursorOf record)
    : startAfter cursorOf after (records.map change) = startAfter cursorOf after records := by
  cases after with
  | none => rfl
  | some wanted =>
      unfold startAfter
      dsimp only
      rw [List.findIdx?_map]
      simp only [Function.comp_def, keeps]

/-- Paging by cursor and a change that keeps cursors can be done in either order. -/
theorem cursorPage_map {change : Json → Json}
    (keeps : ∀ record, cursorOf (change record) = cursorOf record)
    : cursorPage cursorOf after top (records.map change)
      = (cursorPage cursorOf after top records).map change := by
  have keepsLast (last : Option Json) : (last.map change).bind cursorOf = last.bind cursorOf := by
    cases last with
    | none => rfl
    | some last => exact keeps last
  simp only [cursorPage_eq, startAfter_map keeps, ← List.map_drop, ← List.map_take,
    List.getLast?_map, keepsLast, Option.any_map, keeps, Page.map]

/-- Where no record has a cursor, a page starts with the first record and has no cursor to tell. -/
theorem cursorPage_of_no_cursors (absent : ∀ record ∈ records, cursorOf record = none)
    : cursorPage cursorOf after top records
      = ⟨records.take top.toNat, .cursor (after.filter (· ≠ "")) top none false⟩ := by
  have start : startAfter cursorOf (after.filter (· ≠ "")) records = 0 := by
    unfold startAfter
    cases after.filter (· ≠ "") with
    | none => rfl
    | some wanted =>
        have nowhere : records.findIdx? (fun record => cursorOf record = some wanted) = none := by
          rw [List.findIdx?_eq_none_iff]
          intro record member
          simp [absent record member]
        dsimp only
        rw [nowhere]
  have none (part : List Json) (within : part ⊆ records) : part.getLast?.bind cursorOf = none := by
    cases found : part.getLast? with
    | none => rfl
    | some last => exact absent last (within (List.mem_of_getLast? found))
  rw [cursorPage_eq, start, List.drop_zero, none records (List.Subset.refl _),
    none _ (List.take_subset _ _)]
  cases found : (records.take top.toNat).getLast? with
  | none => rfl
  | some last =>
      have listed : last ∈ records := List.mem_of_mem_take (List.mem_of_getLast? found)
      simp [absent last listed]

/-- The last record of a page has another cursor than the last record of all where records follow
the page and the last of these has another cursor.
-/
theorem bne_tail_cursor_iff {before data following : List Json} {last : Json}
    (ends : data.getLast? = some last)
    : (cursorOf last != (before ++ (data ++ following)).getLast?.bind cursorOf) = true
      ↔ ∃ tail, following.getLast? = some tail ∧ cursorOf last ≠ cursorOf tail := by
  cases follows : following.getLast? with
  | none =>
      have tail : (before ++ (data ++ following)).getLast? = some last := by
        rw [List.getLast?_eq_none_iff.mp follows, List.append_nil, List.getLast?_append, ends,
          Option.some_or]
      simp [tail]
  | some tail =>
      have whole : (before ++ (data ++ following)).getLast? = some tail := by
        rw [List.getLast?_append, List.getLast?_append, follows, Option.some_or, Option.some_or]
      simp [whole]

end PageRequest

end RecordQuery
