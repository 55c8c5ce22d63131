import RecordQuery.Proofs.Except
import RecordQuery.Query.Basic

/-! The records that a filter keeps. Filtering succeeds where the filter can be evaluated on every
record, and then keeps the records that it accepts, in their order.
-/

namespace RecordQuery.Filter

/-- Whether a record passes a filter that may be absent. -/
def passes (filter : Option Filter) (record : Json) : Bool :=
  match filter with
  | none => true
  | some filter => (filter.accepts record).toOption == some true

/-- A filter that may be absent can be evaluated on every record. -/
def IsDefinedOn (filter : Option Filter) (records : List Json) : Prop :=
  ∀ condition ∈ filter, ∀ record ∈ records, ∃ accepted, condition.accepts record = .ok accepted

theorem IsDefinedOn.mono {filter : Option Filter} {records others : List Json}
    (defined : IsDefinedOn filter records) (within : ∀ x ∈ others, x ∈ records)
    : IsDefinedOn filter others :=
  fun condition same x member => defined condition same x (within x member)

theorem keep_of_isDefinedOn {filter : Filter} {records : List Json}
    (defined : IsDefinedOn (some filter) records)
    : filter.keep records = .ok (records.filter (passes (some filter))) := by
  induction records with
  | nil => rfl
  | cons record rest ih =>
      obtain ⟨accepted, found⟩ := defined filter rfl record List.mem_cons_self
      have kept := ih (defined.mono fun _ => List.mem_cons_of_mem record)
      have verdict : passes (some filter) record = accepted := by
        rw [passes, found]
        cases accepted <;> rfl
      rw [keep, found, kept, List.filter_cons, verdict]
      rfl

theorem keepIf_of_isDefinedOn {filter : Option Filter} {records : List Json}
    (defined : IsDefinedOn filter records)
    : keepIf filter records = .ok (records.filter (passes filter)) := by
  cases filter with
  | none => exact congrArg Except.ok (List.filter_eq_self.mpr (fun _ _ => rfl)).symm
  | some filter =>
      rw [keepIf, keep_of_isDefinedOn defined]
      rfl

/-- A filter that keeps records can be evaluated on all of them, by induction on them. -/
theorem isDefinedOn_of_keep {filter : Filter} {records kept : List Json}
    (filtered : filter.keep records = .ok kept)
    : IsDefinedOn (some filter) records := by
  induction records generalizing kept with
  | nil => exact fun _ _ _ none => absurd none List.not_mem_nil
  | cons record rest ih =>
      obtain ⟨accepted, first, filtered⟩ := exists_of_bind_eq_ok filtered
      obtain ⟨others, found, _⟩ := exists_of_bind_eq_ok filtered
      rintro _ ⟨⟩ other member
      rcases List.mem_cons.mp member with rfl | later
      · exact ⟨accepted, first⟩
      · exact ih found filter rfl other later

/-- Filtering succeeds where the filter can be evaluated on every record, and keeps the records that
pass it.
-/
theorem keepIf_eq_ok_iff {filter : Option Filter} {records kept : List Json}
    : keepIf filter records = .ok kept
      ↔ IsDefinedOn filter records ∧ records.filter (passes filter) = kept := by
  constructor
  · intro filtered
    have defined : IsDefinedOn filter records := by
      cases filter with
      | none => exact fun _ absent => nomatch absent
      | some filter => exact isDefinedOn_of_keep (eq_ok_of_mapError filtered)
    rw [keepIf_of_isDefinedOn defined] at filtered
    exact ⟨defined, Except.ok.inj filtered⟩
  · rintro ⟨defined, rfl⟩
    exact keepIf_of_isDefinedOn defined

/-- Whether filtering succeeds does not depend on the order of the records. -/
theorem exists_keepIf_iff_of_perm {filter : Option Filter} {records others : List Json}
    (perm : others.Perm records)
    : (∃ kept, keepIf filter others = .ok kept) ↔ ∃ kept, keepIf filter records = .ok kept := by
  simp only [keepIf_eq_ok_iff, exists_and_left, exists_eq', and_true]
  exact ⟨fun defined => defined.mono fun _ => perm.mem_iff.mpr,
    fun defined => defined.mono fun _ => perm.mem_iff.mp⟩

theorem length_le_of_keepIf {filter : Option Filter} {records kept : List Json}
    (filtered : keepIf filter records = .ok kept)
    : kept.length ≤ records.length := by
  obtain ⟨_, rfl⟩ := keepIf_eq_ok_iff.mp filtered
  exact List.length_filter_le _ _

/-- Filtering fails only where there is a filter, and with what that fails with. -/
theorem keepIf_eq_error_iff {filter : Option Filter} {records : List Json} {error : QueryError}
    : keepIf filter records = .error error
      ↔ ∃ condition ∈ filter, ∃ mismatch, error = .typeMismatch mismatch
        ∧ condition.keep records = .error mismatch := by
  cases filter with
  | none => exact ⟨nofun, nofun⟩
  | some filter =>
      constructor
      · intro failed
        obtain ⟨mismatch, found, same⟩ := exists_of_mapError_eq_error failed
        exact ⟨filter, rfl, mismatch, same.symm, found⟩
      · rintro ⟨_, ⟨⟩, mismatch, rfl, failed⟩
        rw [keepIf, failed]
        rfl

end RecordQuery.Filter
