import Mathlib.Data.List.Basic
import RecordQuery.Proofs.Json.Reordering
import RecordQuery.Proofs.Path.Exactness

/-! Projections of projections, and the order of paths. A projection on some of the paths of another
one gives the same on the projection as on the record. The order of the paths, and how often each of
them comes, decides on nothing but the order of the fields.
-/

namespace RecordQuery

namespace Json

-----------------------------------------------------------------------------------------
-- A projection of a projection
-----------------------------------------------------------------------------------------

/-- A projection depends on what its paths lead to, and on nothing else. -/
theorem pick_congr {record other : Json} {paths : List PropertyPath}
    (agree : ∀ path ∈ paths, path.resolve record = path.resolve other)
    : record.pick paths = other.pick paths := by
  have picked : paths.foldl record.pickPath [] = paths.foldl other.pickPath [] := by
    apply List.foldl_ext
    intro fields path member
    rw [pickPath, pickPath, agree path member]
  rw [pick, pick, picked]

/-- The paths of a projection lead in it where they lead in the record, so it can be projected on
them once more.
-/
theorem pick_pick_of_subset {record : Json} {paths others : List PropertyPath}
    (subset : ∀ path ∈ others, path ∈ paths)
    : (record.pick paths).pick others = record.pick others :=
  pick_congr fun path member =>
    follow?_pick_of_covers record ⟨path, subset path member, List.prefix_refl _⟩

-----------------------------------------------------------------------------------------
-- The objects that are made on the way have distinct names
-----------------------------------------------------------------------------------------

/-- An object to which names lead in an object with some fields has distinct names. -/
def HasDistinctNamesAt (names : List String) (fields : List Field) : Prop :=
  ∀ inner, (object fields).follow? names = some (object inner) → (inner.map Prod.fst).Nodup

theorem hasDistinctNamesAt_nil (names : List String) : HasDistinctNamesAt names [] := by
  intro inner found
  cases names with
  | nil =>
      cases found
      exact List.nodup_nil
  | cons name rest => cases found

theorem hasDistinctNamesAt_self_iff {fields : List Field}
    : HasDistinctNamesAt [] fields ↔ (fields.map Prod.fst).Nodup := by
  simp [HasDistinctNamesAt]

/-- An object has distinct names with one more field. -/
theorem HasDistinctNamesAt.setField_self {name : String} {value : Json} {fields : List Field}
    (distinct : HasDistinctNamesAt [] fields)
    : HasDistinctNamesAt [] (setField name value fields) := by
  rw [hasDistinctNamesAt_self_iff] at distinct ⊢
  exact nodup_setField distinct name value

/-- Names that are distinct behind the first one are looked for in the field that has it. -/
theorem HasDistinctNamesAt.tail {name : String} {rest : List String} {fields inner : List Field}
    (distinct : HasDistinctNamesAt (name :: rest) fields)
    (found : field? name fields = some (object inner))
    : HasDistinctNamesAt rest inner := by
  intro deeper reached
  apply distinct deeper
  rw [follow?_object, found]
  exact reached

/-- A field that is put in has what is behind its name. -/
theorem HasDistinctNamesAt.setField {name : String} {rest : List String}
    {fields inner : List Field} (distinct : HasDistinctNamesAt rest inner)
    : HasDistinctNamesAt (name :: rest) (setField name (object inner) fields) := by
  intro deeper reached
  rw [follow?_object, field?_setField_self] at reached
  exact distinct deeper reached

/-- Putting a value in keeps the names distinct in the objects on the way to it. -/
theorem HasDistinctNamesAt.place {value : Json} {names onWay : List String} {fields : List Field}
    (distinct : HasDistinctNamesAt onWay fields) (before : onWay <+: names) (differ : onWay ≠ names)
    : HasDistinctNamesAt onWay (value.place names fields) := by
  fun_induction Json.place value names fields generalizing onWay with
  | case1 fields => exact absurd (List.prefix_nil.mp before) differ
  | case2 name fields =>
      cases onWay with
      | nil => exact distinct.setField_self
      | cons first onWay =>
          obtain ⟨rfl, nothing⟩ := List.cons_prefix_cons.mp before
          rw [List.prefix_nil.mp nothing] at differ
          exact absurd rfl differ
  | case3 name rest fields several none ih =>
      cases onWay with
      | nil => exact distinct.setField_self
      | cons first onWay =>
          obtain ⟨rfl, inside⟩ := List.cons_prefix_cons.mp before
          apply HasDistinctNamesAt.setField
          exact ih (hasDistinctNamesAt_nil onWay) inside fun same => differ (congrArg _ same)
  | case4 name rest fields several inner found ih =>
      cases onWay with
      | nil => exact distinct.setField_self
      | cons first onWay =>
          obtain ⟨rfl, inside⟩ := List.cons_prefix_cons.mp before
          apply HasDistinctNamesAt.setField
          exact ih (distinct.tail found) inside fun same => differ (congrArg _ same)
  | case5 => exact distinct

/-- One more path keeps the names distinct in all objects but those that it picks. -/
theorem HasDistinctNamesAt.pickPath {record : Json} {path : PropertyPath} {names : List String}
    {fields : List Field} (distinct : HasDistinctNamesAt names fields)
    (notBehind : ¬ path.names <+: names)
    : HasDistinctNamesAt names (record.pickPath fields path) := by
  unfold Json.pickPath
  cases path.resolve record with
  | none => exact distinct
  | some value =>
      by_cases before : names <+: path.names
      · exact distinct.place before fun same => notBehind (same ▸ List.prefix_refl _)
      · intro inner reached
        rw [follow?_place_of_apart notBehind before] at reached
        exact distinct inner reached

/-- In a projection, the objects on the way to selected paths have distinct names, by induction on
the paths.
-/
theorem nodup_of_follow?_pick {record : Json} {paths : List PropertyPath} {names : List String}
    {inner : List Field} (notCovers : ¬ PropertyPath.Covers paths names)
    (reached : (record.pick paths).follow? names = some (object inner))
    : (inner.map Prod.fst).Nodup := by
  have kept (fields : List Field) (distinct : HasDistinctNamesAt names fields)
      : HasDistinctNamesAt names (paths.foldl record.pickPath fields) := by
    clear reached
    induction paths generalizing fields with
    | nil => exact distinct
    | cons path rest ih =>
        have notBehind : ¬ path.names <+: names := fun behind =>
          notCovers ⟨path, List.mem_cons_self, behind⟩
        apply ih
        · rintro ⟨other, member, behind⟩
          exact notCovers ⟨other, List.mem_cons_of_mem _ member, behind⟩
        · exact distinct.pickPath notBehind
  exact kept [] (hasDistinctNamesAt_nil names) inner reached

-----------------------------------------------------------------------------------------
-- The order of the paths
-----------------------------------------------------------------------------------------

section Order

variable {record : Json} {paths others : List PropertyPath} {names : List String}

/-- Where names lead to a value in a projection, they do so in one with the same paths and more. -/
theorem isSome_follow?_pick_of_subset (subset : ∀ path ∈ paths, path ∈ others)
    (found : ((record.pick paths).follow? names).isSome)
    : ((record.pick others).follow? names).isSome := by
  by_cases empty : names = []
  · subst empty
    rfl
  obtain ⟨path, member, leads, behind | before⟩ := exists_standsFor_of_pick empty found
  · rw [follow?_pick_of_covers record ⟨path, member, behind⟩] at found
    rw [follow?_pick_of_covers record ⟨path, subset path member, behind⟩]
    exact found
  · exact isSome_follow?_pick (subset path member) leads before

/-- Projections on the same paths agree wherever names lead: behind a selected path they have what
the record has there, and elsewhere objects on the way.
-/
theorem agreeAt_pick (same : ∀ path, path ∈ others ↔ path ∈ paths) (names : List String)
    : AgreeAt (record.pick others) (record.pick paths) names := by
  have covers_iff : PropertyPath.Covers others names ↔ PropertyPath.Covers paths names := by
    simp only [PropertyPath.Covers, same]
  by_cases covers : PropertyPath.Covers paths names
  · left
    rw [follow?_pick_of_covers record covers, follow?_pick_of_covers record (covers_iff.mpr covers)]
  · have covers' : ¬ PropertyPath.Covers others names := covers_iff.not.mpr covers
    have isSome_iff : ((record.pick others).follow? names).isSome
        ↔ ((record.pick paths).follow? names).isSome :=
      ⟨isSome_follow?_pick_of_subset fun path => (same path).mp,
        isSome_follow?_pick_of_subset fun path => (same path).mpr⟩
    cases found : (record.pick paths).follow? names with
    | none => exact .inl (by simpa [found] using isSome_iff)
    | some value =>
        obtain ⟨value', found'⟩ :=
          Option.isSome_iff_exists.mp (isSome_iff.mpr (Option.isSome_of_eq_some found))
        obtain ⟨fields, rfl⟩ := follow?_pick_of_not_covers record covers found
        obtain ⟨fields', rfl⟩ := follow?_pick_of_not_covers record covers' found'
        exact .inr ⟨fields', fields, found', found, nodup_of_follow?_pick covers' found',
          nodup_of_follow?_pick covers found⟩

end Order

/-- A projection on paths that all occur in another list of paths gives the same on the projection
on these as on the record, in the same order of fields. Projections on lists of the same paths, in
any order and any number, are the same up to the order of fields.
-/
theorem pick_pick (record : Json) (paths others : List PropertyPath)
    : ((∀ path ∈ others, path ∈ paths) → (record.pick paths).pick others = record.pick others)
      ∧ ((∀ path, path ∈ others ↔ path ∈ paths)
        → IsReordering (record.pick others) (record.pick paths)) :=
  ⟨pick_pick_of_subset, fun same => isReordering_of_agreeAt _ _ (agreeAt_pick same)⟩

/-- Three paths in two orders, of which one lies behind another: the projections differ in the order of
their fields.
-/
theorem pick_pick_overlapping
    : let record := PropertyPath.nestedRecord
      let item : PropertyPath := ⟨"a/1/b", rfl, by decide⟩
      let field : PropertyPath := ⟨"d/e", rfl, by decide⟩
      let whole : PropertyPath := ⟨"d", rfl, by decide⟩
      (∀ path ∈ [whole, field, item, whole], path ∈ [field, item, whole])
      ∧ (record.pick [field, item, whole]).pick [whole, field, item, whole]
        = record.pick [whole, field, item, whole]
      ∧ (∀ path, path ∈ [item, whole, field, item] ↔ path ∈ [field, item, whole])
      ∧ record.pick [item, whole, field, item] ≠ record.pick [field, item, whole]
      ∧ IsReordering (record.pick [item, whole, field, item]) (record.pick [field, item, whole]) := by
  intro record item field whole
  have subset : ∀ path ∈ [whole, field, item, whole], path ∈ [field, item, whole] := by decide
  have same (path : PropertyPath)
      : path ∈ [item, whole, field, item] ↔ path ∈ [field, item, whole] := by
    simp only [List.mem_cons, List.not_mem_nil, or_false]
    grind
  exact ⟨subset, (pick_pick record _ _).1 subset, same, by decide, (pick_pick record _ _).2 same⟩

end Json

end RecordQuery
