import RecordQuery.Proofs.Filter.Keeping

/-! Filtering by a conjunction or a disjunction. A record for which the left side decides is never
shown to the right side. So a conjunction filters as its sides do one after the other, though errors
come up record by record in the one and side by side in the other, and a disjunction asks its right
side only about what the left side rejects.
-/

namespace RecordQuery.Filter

variable {f g : Filter} {record : Json} {records kept : List Json}

-----------------------------------------------------------------------------------------
-- One record
-----------------------------------------------------------------------------------------

/-- A conjunction is decided by its left side, unless that accepts the record. -/
theorem accepts_and (f g : Filter) (record : Json)
    : (f.and g).accepts record
      = match f.accepts record with
        | .ok true => g.accepts record
        | decided => decided := by
  rw [accepts]
  cases f.accepts record with
  | error mismatch => rfl
  | ok accepted => cases accepted <;> rfl

/-- A disjunction is decided by its left side, unless that rejects the record. -/
theorem accepts_or (f g : Filter) (record : Json)
    : (f.or g).accepts record
      = match f.accepts record with
        | .ok false => g.accepts record
        | decided => decided := by
  rw [accepts]
  cases f.accepts record with
  | error mismatch => rfl
  | ok accepted => cases accepted <;> rfl

theorem passes_and (f g : Filter) (record : Json)
    : passes (some (f.and g)) record = (passes (some f) record && passes (some g) record) := by
  rw [passes, passes, passes, accepts_and]
  cases f.accepts record with
  | error mismatch => rfl
  | ok accepted => cases accepted <;> rfl

theorem passes_or (defined : ∃ accepted, f.accepts record = .ok accepted)
    : passes (some (f.or g)) record = (passes (some f) record || passes (some g) record) := by
  obtain ⟨accepted, found⟩ := defined
  rw [passes, passes, passes, accepts_or, found]
  cases accepted <;> rfl

/-- A conjunction can be evaluated on a record if its left side can, and its right side too where
the left side accepts the record.
-/
theorem exists_accepts_and_iff
    : (∃ accepted, (f.and g).accepts record = .ok accepted)
      ↔ (∃ accepted, f.accepts record = .ok accepted)
        ∧ (passes (some f) record → ∃ accepted, g.accepts record = .ok accepted) := by
  rw [passes, accepts_and]
  cases f.accepts record with
  | error mismatch => simp
  | ok accepted => cases accepted <;> simp [Except.toOption]

/-- A disjunction can be evaluated on a record if its left side can, and its right side too where
the left side rejects the record.
-/
theorem exists_accepts_or_iff
    : (∃ accepted, (f.or g).accepts record = .ok accepted)
      ↔ (∃ accepted, f.accepts record = .ok accepted)
        ∧ (!passes (some f) record → ∃ accepted, g.accepts record = .ok accepted) := by
  rw [passes, accepts_or]
  cases f.accepts record with
  | error mismatch => simp
  | ok accepted => cases accepted <;> simp [Except.toOption]

-----------------------------------------------------------------------------------------
-- All records
-----------------------------------------------------------------------------------------

theorem isDefinedOn_some_iff
    : IsDefinedOn (some f) records
      ↔ ∀ record ∈ records, ∃ accepted, f.accepts record = .ok accepted :=
  ⟨fun defined => defined f rfl, fun defined _ same => Option.some.inj same ▸ defined⟩

theorem isDefinedOn_and_iff
    : IsDefinedOn (some (f.and g)) records
      ↔ IsDefinedOn (some f) records
        ∧ IsDefinedOn (some g) (records.filter (passes (some f))) := by
  simp only [isDefinedOn_some_iff, exists_accepts_and_iff, List.mem_filter, and_imp, forall_and]

theorem isDefinedOn_or_iff
    : IsDefinedOn (some (f.or g)) records
      ↔ IsDefinedOn (some f) records
        ∧ IsDefinedOn (some g) (records.filter (fun record => !passes (some f) record)) := by
  simp only [isDefinedOn_some_iff, exists_accepts_or_iff, List.mem_filter, and_imp, forall_and]

theorem keepIf_and_eq_ok_iff
    : keepIf (some (f.and g)) records = .ok kept
      ↔ ∃ passed, keepIf (some f) records = .ok passed ∧ keepIf (some g) passed = .ok kept := by
  have both : records.filter (passes (some (f.and g)))
      = (records.filter (passes (some f))).filter (passes (some g)) := by
    rw [List.filter_filter]
    exact List.filter_congr fun record _ => (passes_and f g record).trans (Bool.and_comm _ _)
  rw [keepIf_eq_ok_iff, isDefinedOn_and_iff, both]
  constructor
  · rintro ⟨⟨left, right⟩, same⟩
    exact ⟨_, keepIf_of_isDefinedOn left, keepIf_eq_ok_iff.mpr ⟨right, same⟩⟩
  · rintro ⟨passed, first, second⟩
    obtain ⟨left, rfl⟩ := keepIf_eq_ok_iff.mp first
    obtain ⟨right, same⟩ := keepIf_eq_ok_iff.mp second
    exact ⟨⟨left, right⟩, same⟩

theorem keepIf_or_eq_ok_iff
    : keepIf (some (f.or g)) records = .ok kept
      ↔ IsDefinedOn (some f) records
        ∧ IsDefinedOn (some g) (records.filter (fun record => !passes (some f) record))
        ∧ records.filter (fun record => passes (some f) record || passes (some g) record)
          = kept := by
  rw [keepIf_eq_ok_iff, isDefinedOn_or_iff, and_assoc]
  refine and_congr_right (fun defined => and_congr_right (fun _ => ?_))
  have either : records.filter (passes (some (f.or g)))
      = records.filter (fun record => passes (some f) record || passes (some g) record) :=
    List.filter_congr fun record member => passes_or (defined f rfl record member)
  rw [either]

/-- Filtering by a conjunction succeeds where filtering by one side after the other does, with the
same records. Filtering by a disjunction succeeds where the left side can be evaluated on every
record and the right side on those that the left one rejects, and keeps what either accepts.
-/
theorem keepIf_and_or_fusion (f g : Filter) (records kept : List Json)
    : (keepIf (some (f.and g)) records = .ok kept
        ↔ ∃ passed, keepIf (some f) records = .ok passed ∧ keepIf (some g) passed = .ok kept)
      ∧ (keepIf (some (f.or g)) records = .ok kept
        ↔ IsDefinedOn (some f) records
          ∧ IsDefinedOn (some g) (records.filter (fun record => !passes (some f) record))
          ∧ records.filter (fun record => passes (some f) record || passes (some g) record)
            = kept) :=
  ⟨keepIf_and_eq_ok_iff, keepIf_or_eq_ok_iff⟩

/-- The left side accepts the record without a name, on which the right side would fail. -/
example
    : keepIf
        (some (.or
          (.comparison .eq (.property ⟨"name", rfl, by decide⟩) (.literal .null))
          (.stringTest .startsWith (.property ⟨"name", rfl, by decide⟩) (.literal (.string "a")))))
        [.object [("name", .null)], .object [("name", .string "b")],
          .object [("name", .string "ab")]]
      = .ok [.object [("name", .null)], .object [("name", .string "ab")]] :=
  rfl

end RecordQuery.Filter
