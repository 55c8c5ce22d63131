import RecordQuery.Proofs.Path.Projection
import RecordQuery.Filter.Evaluation

/-! What a filter depends on. It sees of a record what the paths that occur in it lead to, and
nothing else: on records that agree there it has the same verdict, or the same failure with all that
is told of it. The projection on these paths is such a record.
-/

namespace RecordQuery

/-- The paths in an operand, at any depth, from left to right. -/
def Operand.paths : Operand → List PropertyPath
  | .property path => [path]
  | .literal _ => []
  | .unary _ a => a.paths
  | .binary _ a b => a.paths ++ b.paths
  | .ternary _ a b c => a.paths ++ b.paths ++ c.paths

/-- The paths in a filter, at any depth, from left to right. -/
def Filter.paths : Filter → List PropertyPath
  | .comparison _ left right => left.paths ++ right.paths
  | .stringTest _ first second => first.paths ++ second.paths
  | .and left right | .or left right => left.paths ++ right.paths

namespace PropertyPath

/-- Each of some paths leads to the same value in both records, or nowhere in both. -/
def AgreeOn (paths : List PropertyPath) (record other : Json) : Prop :=
  ∀ path ∈ paths, path.resolve record = path.resolve other

variable {paths more : List PropertyPath} {record other : Json}

theorem AgreeOn.left (agree : AgreeOn (paths ++ more) record other) : AgreeOn paths record other :=
  fun path member => agree path (List.mem_append_left more member)

theorem AgreeOn.right (agree : AgreeOn (paths ++ more) record other) : AgreeOn more record other :=
  fun path member => agree path (List.mem_append_right paths member)

/-- A record and its projection agree on the paths that are selected. -/
theorem agreeOn_pick (paths : List PropertyPath) (record : Json)
    : AgreeOn paths (record.pick paths) record :=
  fun path member => Json.follow?_pick_of_covers record ⟨path, member, List.prefix_refl _⟩

end PropertyPath

variable {record other : Json}

/-- An operand has the same value, or the same failure, on records that agree on its paths, by
induction on the operand. A call is given the same arguments on both.
-/
theorem Operand.eval_eq_of_agreeOn {operand : Operand}
    (agree : PropertyPath.AgreeOn operand.paths record other)
    : operand.eval record = operand.eval other := by
  induction operand with
  | property path => exact congrArg Except.ok (agree path (List.mem_singleton.mpr rfl))
  | literal value => rfl
  | unary function a sameA => rw [eval, eval, sameA agree]
  | binary function a b sameA sameB => rw [eval, eval, sameA agree.left, sameB agree.right]
  | ternary function a b c sameA sameB sameC =>
      rw [eval, eval, sameA agree.left.left, sameB agree.left.right, sameC agree.right]

/-- A filter has the same verdict, or the same failure, on records that agree on its paths, by
induction on the filter.
-/
theorem Filter.accepts_eq_of_agreeOn {filter : Filter}
    (agree : PropertyPath.AgreeOn filter.paths record other)
    : filter.accepts record = filter.accepts other := by
  induction filter with
  | comparison operator left right =>
      rw [accepts, accepts, Operand.eval_eq_of_agreeOn agree.left,
        Operand.eval_eq_of_agreeOn agree.right]
  | stringTest test first second =>
      rw [accepts, accepts, Operand.eval_eq_of_agreeOn agree.left,
        Operand.eval_eq_of_agreeOn agree.right]
  | and left right sameLeft sameRight =>
      rw [accepts, accepts, sameLeft agree.left, sameRight agree.right]
  | or left right sameLeft sameRight =>
      rw [accepts, accepts, sameLeft agree.left, sameRight agree.right]

namespace Filter

/-- What a filter says of a record it says of the projection of the record on the paths in the
filter, and of every record on which each of these paths leads to the same value, or nowhere in
both. A failure is the same in all that it tells: the call, what that expects, and the argument with
its value.
-/
theorem accepts_dependsOn_paths (filter : Filter) (record : Json)
    : filter.accepts (record.pick filter.paths) = filter.accepts record
      ∧ ∀ other, (∀ path ∈ filter.paths, path.resolve record = path.resolve other)
        → filter.accepts record = filter.accepts other :=
  ⟨accepts_eq_of_agreeOn (PropertyPath.agreeOn_pick filter.paths record),
    fun _ agree => accepts_eq_of_agreeOn agree⟩

/-- A filter that fails where the first tag is no string, unless there is a name. -/
def unnamedRed : Filter :=
  .and (.comparison .eq (.property ⟨"name", rfl, by decide⟩) (.literal .null))
    (.comparison .eq (.unary .toLower (.property ⟨"tags/0", rfl, by decide⟩))
      (.literal (.string "red")))

/-- The filter fails alike on three records: the first tag of each is the number 7. -/
theorem accepts_dependsOn_paths_unnamedRed
    : let record := Json.object [("id", .bool true), ("name", .null),
        ("tags", .array [.number (.nearestInt 7), .string "red"])]
      let other := Json.object [("tags", .object [("0", .number (.nearestInt 7))]), ("name", .null)]
      (∀ path ∈ unnamedRed.paths, path.resolve record = path.resolve other)
      ∧ unnamedRed.accepts (record.pick unnamedRed.paths) = unnamedRed.accepts record
      ∧ unnamedRed.accepts record = unnamedRed.accepts other
      ∧ unnamedRed.accepts other = .error ⟨"tolower", .strings,
          .property ⟨"tags/0", rfl, by decide⟩, some (.number (.nearestInt 7))⟩ := by
  intro record other
  have agree : ∀ path ∈ unnamedRed.paths, path.resolve record = path.resolve other := by
    decide
  obtain ⟨projected, same⟩ := accepts_dependsOn_paths unnamedRed record
  exact ⟨agree, projected, same other agree, rfl⟩

end Filter

end RecordQuery
