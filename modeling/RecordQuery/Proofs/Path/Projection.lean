import RecordQuery.Path.Projection
import RecordQuery.Proofs.Json.Fields
import RecordQuery.Proofs.Path.Spelling

/-! What is left of a record in its projection. Behind a selected path everything is found that the
record has there, and nothing else: what leads to no selected path has no value, and what stands on
the way to one is an object that was made for it.
-/

namespace RecordQuery

namespace Json

-----------------------------------------------------------------------------------------
-- Putting a value in changes what lies behind its names, and the way there
-----------------------------------------------------------------------------------------

/-- A value that is there already is not put in again, by induction on the names. -/
theorem place_of_follow? {value : Json} {names : List String} {fields : List Field}
    (h : (object fields).follow? names = some value)
    : value.place names fields = fields := by
  fun_induction place value names fields with
  | case1 fields => rfl
  | case2 name fields =>
      rw [follow?_object, Option.bind_eq_some_iff] at h
      obtain ⟨found, field, same⟩ := h
      cases same
      exact setField_of_field? field
  | case3 name rest fields several none ih => simp [none] at h
  | case4 name rest fields several inner found ih =>
      rw [follow?_object, found, Option.bind_some] at h
      rw [ih h]
      exact setField_of_field? found
  | case5 => rfl

/-- Only objects stand on a row of names, as far as anything does. -/
def IsOpen (names : List String) (fields : List Field) : Prop :=
  ∀ onWay, onWay ≠ [] → onWay <+: names → onWay ≠ names → ∀ value,
    (object fields).follow? onWay = some value → ∃ inner, value = object inner

theorem isOpen_nil (names : List String) : IsOpen names [] := by
  intro onWay nonempty _ _ value found
  cases onWay with
  | nil => exact absurd rfl nonempty
  | cons name rest => cases found

/-- A row of names that is open is open behind its first name. -/
theorem IsOpen.tail {name : String} {rest : List String} {fields inner : List Field}
    (isOpen : IsOpen (name :: rest) fields) (found : field? name fields = some (object inner))
    : IsOpen rest inner := by
  intro onWay _ before differ value reached
  refine isOpen (name :: onWay) (List.cons_ne_nil _ _) ?_ ?_ value ?_
  · exact List.cons_prefix_cons.mpr ⟨rfl, before⟩
  · intro same
    exact differ (List.cons.inj same).2
  · rw [follow?_object, found, Option.bind_some]
    exact reached

/-- What the first name of an open row leads to is an object, unless the row ends there. -/
theorem IsOpen.head {name : String} {rest : List String} {fields : List Field} {value : Json}
    (isOpen : IsOpen (name :: rest) fields) (more : rest ≠ [])
    (found : field? name fields = some value)
    : ∃ inner, value = object inner := by
  refine isOpen [name] (List.cons_ne_nil _ _) ?_ ?_ value ?_
  · exact List.cons_prefix_cons.mpr ⟨rfl, List.nil_prefix⟩
  · intro same
    exact more (List.cons.inj same).2.symm
  · rw [follow?_object, found, Option.bind_some, follow?_nil]

/-- Where only objects stand on the way, a value is put in, and what it holds is found behind its
names. The proof is by induction on the names; where nothing stands, the rest of them is open.
-/
theorem follow?_place {value : Json} {names : List String} {fields : List Field}
    (nonempty : names ≠ []) (isOpen : IsOpen names fields) (more : List String)
    : (object (value.place names fields)).follow? (names ++ more) = value.follow? more := by
  fun_induction place value names fields with
  | case1 fields => exact absurd rfl nonempty
  | case2 name fields => simp
  | case3 name rest fields several none ih =>
      rw [List.cons_append, follow?_object, field?_setField_self, Option.bind_some]
      exact ih several (isOpen_nil rest)
  | case4 name rest fields several inner found ih =>
      rw [List.cons_append, follow?_object, field?_setField_self, Option.bind_some]
      exact ih several (isOpen.tail found)
  | case5 name rest fields several found noObject held =>
      obtain ⟨inner, same⟩ := isOpen.head several held
      exact absurd same (noObject inner)

/-- On the way to a value that was put in, there are objects. -/
theorem follow?_place_onWay (value : Json) {names : List String} {fields : List Field}
    (isOpen : IsOpen names fields) {onWay : List String} (nonempty : onWay ≠ [])
    (before : onWay <+: names) (differ : onWay ≠ names)
    : ∃ inner, (object (value.place names fields)).follow? onWay = some (object inner) := by
  -- the names on the way are split off first, because each step of the induction takes one
  obtain ⟨first, onWay, rfl⟩ := List.exists_cons_of_ne_nil nonempty
  clear nonempty
  fun_induction place value names fields generalizing first onWay with
  | case1 fields => exact absurd (List.prefix_nil.mp before) (List.cons_ne_nil _ _)
  | case2 name fields =>
      obtain ⟨rfl, nothing⟩ := List.cons_prefix_cons.mp before
      rw [List.prefix_nil.mp nothing] at differ
      exact absurd rfl differ
  | case3 name rest fields several none ih =>
      obtain ⟨rfl, inside⟩ := List.cons_prefix_cons.mp before
      rw [follow?_object, field?_setField_self, Option.bind_some]
      cases onWay with
      | nil => exact ⟨_, rfl⟩
      | cons second onWay =>
          refine ih (isOpen_nil rest) second onWay inside ?_
          intro equal
          subst equal
          exact differ rfl
  | case4 name rest fields several inner found ih =>
      obtain ⟨rfl, inside⟩ := List.cons_prefix_cons.mp before
      rw [follow?_object, field?_setField_self, Option.bind_some]
      cases onWay with
      | nil => exact ⟨_, rfl⟩
      | cons second onWay =>
          refine ih (isOpen.tail found) second onWay inside ?_
          intro equal
          subst equal
          exact differ rfl
  | case5 name rest fields several found noObject held =>
      obtain ⟨inner, same⟩ := isOpen.head several held
      exact absurd same (noObject inner)

/-- Putting a value in leaves everything as it is that neither holds it nor is held by it. -/
theorem follow?_place_of_apart {value : Json} {names others : List String} {fields : List Field}
    (notBehind : ¬ names <+: others) (notBefore : ¬ others <+: names)
    : (object (value.place names fields)).follow? others = (object fields).follow? others := by
  cases others with
  | nil => exact absurd List.nil_prefix notBefore
  | cons other others =>
      fun_induction place value names fields generalizing other others with
      | case1 fields => rfl
      | case2 name fields =>
          have differ : name ≠ other := by
            intro equal
            subst equal
            exact notBehind (List.cons_prefix_cons.mpr ⟨rfl, List.nil_prefix⟩)
          rw [follow?_object, field?_setField_of_ne differ, follow?_object]
      | case3 name rest fields several none ih =>
          by_cases same : name = other
          · subst same
            rw [List.cons_prefix_cons] at notBehind notBefore
            rw [follow?_object, field?_setField_self, Option.bind_some, follow?_object, none,
              Option.bind_none]
            cases others with
            | nil => exact absurd ⟨rfl, List.nil_prefix⟩ notBefore
            | cons second others =>
                exact ih second others (fun behind => notBehind ⟨rfl, behind⟩)
                  (fun before => notBefore ⟨rfl, before⟩)
          · rw [follow?_object, field?_setField_of_ne same, follow?_object]
      | case4 name rest fields several inner found ih =>
          by_cases same : name = other
          · subst same
            rw [List.cons_prefix_cons] at notBehind notBefore
            rw [follow?_object, field?_setField_self, Option.bind_some, follow?_object, found,
              Option.bind_some]
            cases others with
            | nil => exact absurd ⟨rfl, List.nil_prefix⟩ notBefore
            | cons second others =>
                exact ih second others (fun behind => notBehind ⟨rfl, behind⟩)
                  (fun before => notBefore ⟨rfl, before⟩)
          · rw [follow?_object, field?_setField_of_ne same, follow?_object]
      | case5 => rfl

end Json

namespace PropertyPath

/-- Some path leads to what the names lead to, or to a value that holds it. -/
def Covers (paths : List PropertyPath) (names : List String) : Prop :=
  ∃ path ∈ paths, path.names <+: names

instance (paths : List PropertyPath) (names : List String) : Decidable (Covers paths names) :=
  inferInstanceAs (Decidable (∃ path ∈ paths, path.names <+: names))

theorem covers_concat {paths : List PropertyPath} {path : PropertyPath} {names : List String}
    : Covers (paths ++ [path]) names ↔ Covers paths names ∨ path.names <+: names := by
  simp [Covers, or_and_right, exists_or]

theorem Covers.trans {paths : List PropertyPath} {names more : List String}
    (covers : Covers paths names) (before : names <+: more)
    : Covers paths more := by
  obtain ⟨path, member, behind⟩ := covers
  exact ⟨path, member, behind.trans before⟩

end PropertyPath

namespace Json

-----------------------------------------------------------------------------------------
-- What is picked of a record, one path after the other
-----------------------------------------------------------------------------------------

/-- What has been picked of a record so far: behind a picked path all that the record has there, and
elsewhere only objects on the way to it.
-/
structure IsPicked (record : Json) (picked : List PropertyPath) (fields : List Field) : Prop where
  behind : ∀ names, PropertyPath.Covers picked names
    → (object fields).follow? names = record.follow? names
  onWay : ∀ names, names ≠ [] → ¬ PropertyPath.Covers picked names → ∀ value,
    (object fields).follow? names = some value
    → (∃ inner, value = object inner) ∧ (record.follow? names).isSome

section Picking

variable {record : Json} {picked : List PropertyPath} {fields : List Field} {path : PropertyPath}

theorem isPicked_nil (record : Json) : IsPicked record [] [] := by
  constructor
  · intro names covers
    obtain ⟨path, member, _⟩ := covers
    exact absurd member List.not_mem_nil
  · intro names nonempty _ value found
    cases names with
    | nil => exact absurd rfl nonempty
    | cons name rest => cases found

/-- The way to a path that nothing picked holds is open. -/
theorem IsPicked.isOpen (isPicked : IsPicked record picked fields)
    (fresh : ¬ PropertyPath.Covers picked path.names)
    : IsOpen path.names fields := by
  intro onWay nonempty before _ value found
  exact (isPicked.onWay onWay nonempty (fun covers => fresh (covers.trans before)) value found).1

/-- A path that leads nowhere picks nothing. -/
theorem IsPicked.of_none (isPicked : IsPicked record picked fields)
    (nowhere : path.resolve record = none)
    : IsPicked record (picked ++ [path]) fields := by
  constructor
  · intro names covers
    by_cases already : PropertyPath.Covers picked names
    · exact isPicked.behind names already
    · obtain ⟨more, rfl⟩ := (PropertyPath.covers_concat.mp covers).resolve_left already
      have absent : record.follow? (path.names ++ more) = none := by
        rw [follow?_append, show record.follow? path.names = none from nowhere, Option.bind_none]
      rw [absent, Option.eq_none_iff_forall_ne_some]
      intro value found
      -- an object made for another path would stand on a way that the record has
      have nonempty : path.names ++ more ≠ [] :=
        List.append_ne_nil_of_left_ne_nil path.names_ne_nil more
      have held := (isPicked.onWay _ nonempty already value found).2
      rw [absent] at held
      cases held
  · intro names nonempty notCovered value found
    exact isPicked.onWay names nonempty
      (fun covers => notCovered (PropertyPath.covers_concat.mpr (.inl covers))) value found

/-- A path behind one that is picked already picks nothing more. -/
theorem IsPicked.of_covers (isPicked : IsPicked record picked fields)
    (covered : PropertyPath.Covers picked path.names)
    : IsPicked record (picked ++ [path]) fields := by
  have same (names : List String)
      : PropertyPath.Covers (picked ++ [path]) names ↔ PropertyPath.Covers picked names := by
    rw [PropertyPath.covers_concat]
    exact or_iff_left_of_imp covered.trans
  constructor
  · intro names covers
    exact isPicked.behind names ((same names).mp covers)
  · intro names nonempty notCovered value found
    exact isPicked.onWay names nonempty (fun covers => notCovered ((same names).mpr covers)) value
      found

/-- A path that nothing picked holds picks the value that it leads to. Names that neither hold the
path nor lie behind it lead where they led before.
-/
theorem IsPicked.place (isPicked : IsPicked record picked fields)
    (fresh : ¬ PropertyPath.Covers picked path.names) {value : Json}
    (reached : path.resolve record = some value)
    : IsPicked record (picked ++ [path]) (value.place path.names fields) := by
  have isOpen := isPicked.isOpen fresh
  constructor
  · intro names covers
    by_cases behind : path.names <+: names
    · obtain ⟨more, rfl⟩ := behind
      rw [follow?_place path.names_ne_nil isOpen, follow?_append,
        show record.follow? path.names = some value from reached, Option.bind_some]
    · have already := (PropertyPath.covers_concat.mp covers).resolve_right behind
      have apart : ¬ names <+: path.names := fun before => fresh (already.trans before)
      rw [follow?_place_of_apart behind apart]
      exact isPicked.behind names already
  · intro names nonempty notCovered found' found
    rw [PropertyPath.covers_concat, not_or] at notCovered
    obtain ⟨notBefore, notBehind⟩ := notCovered
    by_cases before : names <+: path.names
    · have differ : names ≠ path.names := by
        intro equal
        subst equal
        exact notBehind (List.prefix_refl _)
      obtain ⟨inner, there⟩ := follow?_place_onWay value isOpen nonempty before differ
      obtain ⟨more, split⟩ := before
      have held : record.follow? (names ++ more) = some value := by
        rw [split]
        exact reached
      rw [follow?_append, Option.bind_eq_some_iff] at held
      obtain ⟨outer, passed, _⟩ := held
      exact ⟨⟨inner, Option.some.inj (found.symm.trans there)⟩, by rw [passed]; rfl⟩
    · rw [follow?_place_of_apart notBehind before] at found
      exact isPicked.onWay names nonempty notBefore found' found

/-- One more path keeps the description. -/
theorem IsPicked.pickPath (isPicked : IsPicked record picked fields) (path : PropertyPath)
    : IsPicked record (picked ++ [path]) (record.pickPath fields path) := by
  unfold Json.pickPath
  cases reached : path.resolve record with
  | none => exact isPicked.of_none reached
  | some value =>
      by_cases covered : PropertyPath.Covers picked path.names
      · have there : (object fields).follow? path.names = some value :=
          (isPicked.behind path.names covered).trans reached
        dsimp only
        rw [place_of_follow? there]
        exact isPicked.of_covers covered
      · exact isPicked.place covered reached

/-- The description holds after each path, by induction on the paths that are left. -/
theorem IsPicked.foldl (isPicked : IsPicked record picked fields) (paths : List PropertyPath)
    : IsPicked record (picked ++ paths) (paths.foldl record.pickPath fields) := by
  induction paths generalizing picked fields with
  | nil =>
      rw [List.append_nil]
      exact isPicked
  | cons path rest ih =>
      rw [List.append_cons, List.foldl_cons]
      exact ih (isPicked.pickPath path)

end Picking

/-- Behind a selected path, a projection has what the record has. -/
theorem follow?_pick_of_covers (record : Json) {paths : List PropertyPath} {names : List String}
    (covers : PropertyPath.Covers paths names)
    : (record.pick paths).follow? names = record.follow? names :=
  ((isPicked_nil record).foldl paths).behind names covers

/-- Elsewhere it has nothing but objects. -/
theorem follow?_pick_of_not_covers (record : Json) {paths : List PropertyPath}
    {names : List String} (notCovers : ¬ PropertyPath.Covers paths names) {value : Json}
    (found : (record.pick paths).follow? names = some value)
    : ∃ inner, value = object inner := by
  cases names with
  | nil => exact ⟨_, (Option.some.inj found).symm⟩
  | cons name rest =>
      have isPicked : IsPicked record paths (paths.foldl record.pickPath []) :=
        (isPicked_nil record).foldl paths
      exact (isPicked.onWay _ (List.cons_ne_nil _ _) notCovers value found).1

end Json

end RecordQuery
