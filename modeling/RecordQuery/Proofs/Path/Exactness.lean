import RecordQuery.Proofs.Path.Projection

/-! A projection holds what is selected, and nothing else. Each path adds what lies behind it and the
objects on the way to it, where it leads somewhere in the record; so whatever is found in a
projection lies behind a selected path, where it is what the record has there, or is an object on
the way to one.
-/

namespace RecordQuery

namespace Json

-----------------------------------------------------------------------------------------
-- Which path a value in a projection is there for
-----------------------------------------------------------------------------------------

/-- A path that leads somewhere in a record, and behind which, or on the way to which, names lead. -/
def StandsFor (record : Json) (path : PropertyPath) (names : List String) : Prop :=
  (path.resolve record).isSome ∧ (path.names <+: names ∨ names <+: path.names)

/-- One more path adds only what stands for it. -/
theorem isSome_or_standsFor_of_pickPath {record : Json} {path : PropertyPath} {fields : List Field}
    {names : List String} (found : ((object (record.pickPath fields path)).follow? names).isSome)
    : ((object fields).follow? names).isSome ∨ StandsFor record path names := by
  unfold pickPath at found
  cases reached : path.resolve record with
  | none =>
      rw [reached] at found
      exact .inl found
  | some value =>
      rw [reached] at found
      by_cases behind : path.names <+: names
      · exact .inr ⟨by rw [reached]; rfl, .inl behind⟩
      by_cases before : names <+: path.names
      · exact .inr ⟨by rw [reached]; rfl, .inr before⟩
      dsimp only at found
      rw [follow?_place_of_apart behind before] at found
      exact .inl found

/-- Some paths add only what stands for one of them, by induction on the paths. -/
theorem isSome_or_exists_standsFor {record : Json} {paths : List PropertyPath} {fields : List Field}
    {names : List String}
    (found : ((object (paths.foldl record.pickPath fields)).follow? names).isSome)
    : ((object fields).follow? names).isSome ∨ ∃ path ∈ paths, StandsFor record path names := by
  induction paths generalizing fields with
  | nil => exact .inl found
  | cons path rest ih =>
      rcases ih found with earlier | ⟨other, member, stands⟩
      · rcases isSome_or_standsFor_of_pickPath earlier with before | stands
        · exact .inl before
        · exact .inr ⟨path, List.mem_cons_self, stands⟩
      · exact .inr ⟨other, List.mem_cons_of_mem _ member, stands⟩

/-- What names lead to in a projection stands for one of the selected paths. -/
theorem exists_standsFor_of_pick {record : Json} {paths : List PropertyPath} {names : List String}
    (nonempty : names ≠ []) (found : ((record.pick paths).follow? names).isSome)
    : ∃ path ∈ paths, StandsFor record path names := by
  refine (isSome_or_exists_standsFor found).resolve_left ?_
  cases names with
  | nil => exact absurd rfl nonempty
  | cons name rest => exact Bool.false_ne_true

/-- On the way to a selected path that leads somewhere in the record, a projection has values. -/
theorem isSome_follow?_pick {record : Json} {paths : List PropertyPath} {path : PropertyPath}
    {names : List String} (member : path ∈ paths) (reached : (path.resolve record).isSome)
    (before : names <+: path.names)
    : ((record.pick paths).follow? names).isSome := by
  refine isSome_follow?_of_prefix before ?_
  rw [follow?_pick_of_covers record ⟨path, member, List.prefix_refl _⟩]
  exact reached

end Json

-----------------------------------------------------------------------------------------
-- Projections are exact
-----------------------------------------------------------------------------------------

namespace PropertyPath

/-- A path lies behind a selected one that leads somewhere in a record, where it leads to a value. -/
def IsHeld (record : Json) (paths : List PropertyPath) (path : PropertyPath) (value : Json) : Prop :=
  ∃ selected ∈ paths, (selected.resolve record).isSome ∧ selected.names <+: path.names
    ∧ path.resolve record = some value

/-- A path is on the way to a selected one that leads somewhere in a record, and short of it. -/
def IsOnWay (record : Json) (paths : List PropertyPath) (path : PropertyPath) : Prop :=
  ∃ selected ∈ paths, (selected.resolve record).isSome ∧ path.names <+: selected.names
    ∧ path.names ≠ selected.names

/-- A selected path leads in a projection to what it leads to in the record. Whatever any path leads
to in the projection is what the record has there, behind a selected path that leads somewhere in
the record, or it is an object on the way to such a path.
-/
theorem resolve_pick (record : Json) (paths : List PropertyPath)
    : (∀ path ∈ paths, path.resolve (record.pick paths) = path.resolve record)
      ∧ ∀ (path : PropertyPath) (value : Json), path.resolve (record.pick paths) = some value
        → IsHeld record paths path value
          ∨ IsOnWay record paths path ∧ ∃ fields, value = .object fields := by
  constructor
  · intro path member
    exact Json.follow?_pick_of_covers record ⟨path, member, List.prefix_refl _⟩
  · intro path value found
    by_cases covers : Covers paths path.names
    · have there : path.resolve record = some value :=
        (Json.follow?_pick_of_covers record covers).symm.trans found
      obtain ⟨selected, member, behind⟩ := covers
      refine .inl ⟨selected, member, Json.isSome_follow?_of_prefix behind ?_, behind, there⟩
      exact Option.isSome_of_eq_some there
    · obtain ⟨selected, member, leads, stands⟩ :=
        Json.exists_standsFor_of_pick path.names_ne_nil (Option.isSome_of_eq_some found)
      have notBehind : ¬ selected.names <+: path.names := fun behind =>
        covers ⟨selected, member, behind⟩
      have before : path.names <+: selected.names := stands.resolve_left notBehind
      refine .inr ⟨⟨selected, member, leads, before, ?_⟩,
        Json.follow?_pick_of_not_covers record covers found⟩
      intro same
      exact notBehind (same ▸ List.prefix_refl _)

/-- A record with an array and an object inside. -/
def nestedRecord : Json :=
  .object
    [
      ("a", .array [.string "x", .object [("b", .bool true), ("c", .null)]]),
      ("d", .object [("e", .string "y"), ("f", .string "z")])
    ]

/-- Paths of which one goes through an array, one lies behind another, and one leads nowhere. -/
def overlappingPaths : List PropertyPath :=
  [⟨"d", rfl, by decide⟩, ⟨"a/1/b", rfl, by decide⟩, ⟨"d/e", rfl, by decide⟩,
    ⟨"x/y", rfl, by decide⟩]

/-- In the projection, the array is an object on the way to the path through it, and the object that
is selected is there as a whole.
-/
theorem resolve_pick_overlapping
    : let projection := nestedRecord.pick overlappingPaths
      let item : PropertyPath := ⟨"a/1", rfl, by decide⟩
      let field : PropertyPath := ⟨"d/f", rfl, by decide⟩
      (∀ path ∈ overlappingPaths, path.resolve projection = path.resolve nestedRecord)
      ∧ item.resolve projection = some (.object [("b", .bool true)])
      ∧ (IsHeld nestedRecord overlappingPaths item (.object [("b", .bool true)])
        ∨ IsOnWay nestedRecord overlappingPaths item
          ∧ ∃ fields, Json.object [("b", .bool true)] = .object fields)
      ∧ field.resolve projection = some (.string "z")
      ∧ (IsHeld nestedRecord overlappingPaths field (.string "z")
        ∨ IsOnWay nestedRecord overlappingPaths field
          ∧ ∃ fields, Json.string "z" = .object fields) := by
  intro projection item field
  obtain ⟨same, nothingElse⟩ := resolve_pick nestedRecord overlappingPaths
  have reachedItem : item.resolve projection = some (.object [("b", .bool true)]) := by decide
  have reachedField : field.resolve projection = some (.string "z") := by decide
  exact ⟨same, reachedItem, nothingElse item _ reachedItem, reachedField,
    nothingElse field _ reachedField⟩

end PropertyPath

end RecordQuery
