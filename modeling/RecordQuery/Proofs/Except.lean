import Mathlib.Data.List.Forall2

/-! Computations that give a result or an error: what the result or the error of a composed one
comes from.
-/

namespace RecordQuery

/-- A computation in two steps gives a result where both steps do. -/
theorem exists_of_bind_eq_ok {first : Except ε α} {next : α → Except ε β} {result : β}
    (h : first >>= next = .ok result)
    : ∃ value, first = .ok value ∧ next value = .ok result := by
  cases first with
  | ok value => exact ⟨value, rfl, h⟩
  | error error => cases h

/-- A computation in two steps fails in the first, or in the second after what the first one gave.
-/
theorem eq_error_of_bind {first : Except ε α} {next : α → Except ε β} {error : ε}
    (h : first >>= next = .error error)
    : first = .error error ∨ ∃ value, first = .ok value ∧ next value = .error error := by
  cases first with
  | ok value => exact .inr ⟨value, rfl, h⟩
  | error other =>
      cases h
      exact .inl rfl

/-- Items are computed one by one where each of them gives its result. -/
theorem mapM_eq_ok_iff {compute : α → Except ε β} {items : List α} {results : List β}
    : items.mapM compute = .ok results
      ↔ List.Forall₂ (fun item result => compute item = .ok result) items results := by
  induction items generalizing results with
  | nil =>
      rw [List.forall₂_nil_left_iff]
      exact ⟨fun done => (Except.ok.inj done).symm, fun none => none ▸ rfl⟩
  | cons item rest ih =>
      rw [List.mapM_cons, List.forall₂_cons_left_iff]
      constructor
      · intro done
        obtain ⟨first, computed, done⟩ := exists_of_bind_eq_ok done
        obtain ⟨others, more, done⟩ := exists_of_bind_eq_ok done
        exact ⟨first, others, computed, ih.mp more, (Except.ok.inj done).symm⟩
      · rintro ⟨first, others, computed, more, rfl⟩
        rw [computed, ih.mpr more]
        rfl

/-- Where items are computed one by one, an error is that of an item. -/
theorem exists_of_mapM_eq_error {compute : α → Except ε β} {items : List α} {error : ε}
    (h : items.mapM compute = .error error)
    : ∃ item ∈ items, compute item = .error error := by
  induction items with
  | nil => cases h
  | cons item rest ih =>
      rw [List.mapM_cons] at h
      rcases eq_error_of_bind h with failed | ⟨first, _, h⟩
      · exact ⟨item, List.mem_cons_self, failed⟩
      · rcases eq_error_of_bind h with failed | ⟨others, _, h⟩
        · obtain ⟨other, member, failed⟩ := ih failed
          exact ⟨other, List.mem_cons_of_mem item member, failed⟩
        · cases h

/-- A result that is changed comes from a result. -/
theorem exists_of_map_eq_ok {computed : Except ε α} {change : α → β} {result : β}
    (h : computed.map change = .ok result)
    : ∃ value, computed = .ok value ∧ change value = result := by
  cases computed with
  | ok value => exact ⟨value, rfl, Except.ok.inj h⟩
  | error error => cases h

/-- An error stays where results are changed. -/
theorem eq_error_of_map {computed : Except ε α} {change : α → β} {error : ε}
    (h : computed.map change = .error error)
    : computed = .error error := by
  cases computed with
  | ok value => cases h
  | error other =>
      cases h
      rfl

/-- A result stays where errors are changed. -/
theorem eq_ok_of_mapError {computed : Except ε α} {change : ε → δ} {result : α}
    (h : computed.mapError change = .ok result)
    : computed = .ok result := by
  cases computed with
  | ok value =>
      cases h
      rfl
  | error error => cases h

/-- An error that is changed comes from an error. -/
theorem exists_of_mapError_eq_error {computed : Except ε α} {change : ε → δ} {error : δ}
    (h : computed.mapError change = .error error)
    : ∃ cause, computed = .error cause ∧ change cause = error := by
  cases computed with
  | ok value => cases h
  | error cause => exact ⟨cause, rfl, Except.error.inj h⟩

end RecordQuery
