import RecordQuery.Error
import RecordQuery.Path.Projection

/-! Lists of paths to project records on. No paths leave records as they are. -/

namespace RecordQuery

/-- The records projected on some paths. -/
def PropertyPath.select (paths : List PropertyPath) (records : List Json) : List Json :=
  if paths.isEmpty then records else records.map (·.pick paths)

/-- One path of a list of several. -/
def PropertyPath.parseItem (text : String) (item : List Char) : Except ParseError PropertyPath :=
  let item := Text.trim item
  if item.isEmpty then .error (.emptyPathItem text)
  else if item = ['*'] then .error .starWithPaths
  else
    match PropertyPath.parse (String.ofList item) with
    | .ok path => .ok path
    | .error error => .error (.path error)

/-- The items without those that occur before. -/
def Text.firstOccurrences [DecidableEq α] (items : List α) : List α :=
  items.foldl (fun kept item => if item ∈ kept then kept else kept ++ [item]) []

/-- No item is lost, by induction on the items that are still to be seen. -/
theorem Text.mem_firstOccurrences [DecidableEq α] {items : List α} {item : α}
    : item ∈ firstOccurrences items ↔ item ∈ items := by
  have keeps (kept : List α)
      : item ∈ items.foldl (fun kept item => if item ∈ kept then kept else kept ++ [item]) kept
        ↔ item ∈ kept ∨ item ∈ items := by
    induction items generalizing kept with
    | nil => simp
    | cons first rest ih =>
        rw [List.foldl_cons, ih, List.mem_cons]
        split
        · next seen =>
            constructor
            · exact Or.imp_right .inr
            · rintro (old | rfl | later)
              · exact .inl old
              · exact .inl seen
              · exact .inr later
        · rw [List.mem_append, List.mem_singleton, or_assoc]
  rw [firstOccurrences, keeps]
  simp

theorem Text.firstOccurrences_concat [DecidableEq α] (items : List α) (last : α)
    : firstOccurrences (items ++ [last])
      = if last ∈ items then firstOccurrences items else firstOccurrences items ++ [last] := by
  have step : firstOccurrences (items ++ [last])
      = if last ∈ firstOccurrences items then firstOccurrences items
        else firstOccurrences items ++ [last] := by
    rw [firstOccurrences, List.foldl_append]
    rfl
  simp only [step, mem_firstOccurrences]

/-- No item is kept twice, by the same induction. -/
theorem Text.nodup_firstOccurrences [DecidableEq α] (items : List α)
    : (firstOccurrences items).Nodup := by
  have keeps (kept : List α) (distinct : kept.Nodup)
      : (items.foldl (fun kept item => if item ∈ kept then kept else kept ++ [item]) kept).Nodup := by
    induction items generalizing kept with
    | nil => exact distinct
    | cons first rest ih =>
        apply ih
        dsimp only
        split
        · exact distinct
        · next new =>
            refine List.nodup_append.mpr ⟨distinct, List.pairwise_singleton _ _, ?_⟩
            rintro item old _ last rfl
            exact new (List.mem_singleton.mp last ▸ old)
  exact keeps [] List.nodup_nil

/-- The paths that a text lists, with commas between them, each once. A blank text and a star list
none, which stands for whole records.
-/
def PropertyPath.parseList (text : String) : Except ParseError (List PropertyPath) :=
  let trimmed := Text.trimmed text
  if trimmed = "" ∨ trimmed = "*" then .ok []
  else ((trimmed.toList.splitOn ',').mapM (parseItem trimmed)).map Text.firstOccurrences

end RecordQuery
