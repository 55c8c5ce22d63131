import RecordQuery.Proofs.Store.Actions

/-! The places of endpoints in a store. An id is looked up from the front, so it stands for the first
endpoint that has it. That one is found, a change is made where it stands, and a removal closes the
gap that it leaves; all other endpoints stay where they are, as they are.
-/

namespace RecordQuery.Store

/-- The first endpoint with an id, between those in front of it and those behind it. -/
structure IsFirst (store : Store) (id : String) (front : List Endpoint) (endpoint : Endpoint)
    (behind : List Endpoint) : Prop where
  endpoints : store.endpoints = front ++ endpoint :: behind
  named : endpoint.id = id
  others : ∀ other ∈ front, other.id ≠ id

variable {store : Store} {id : String} {change : EndpointUpdate} {endpoint : Endpoint}
  {front behind : List Endpoint}

-----------------------------------------------------------------------------------------
-- Looking up an id
-----------------------------------------------------------------------------------------

theorem found_eq_ok_iff_isFirst
    : store.found id = .ok endpoint ↔ ∃ front behind, store.IsFirst id front endpoint behind := by
  have searched : store.found id = .ok endpoint
      ↔ store.endpoints.find? (fun endpoint => endpoint.id = id) = some endpoint := by
    unfold found
    cases store.endpoints.find? (fun endpoint => endpoint.id = id) with
    | none => simp
    | some other => simp
  rw [searched, List.find?_eq_some_iff_append]
  constructor
  · rintro ⟨named, front, behind, split, others⟩
    exact ⟨front, behind, split, of_decide_eq_true named, by simpa using others⟩
  · rintro ⟨front, behind, split, named, others⟩
    exact ⟨decide_eq_true named, front, behind, split, by simpa using others⟩

/-- An id that no endpoint has is not found. -/
theorem found_eq_error (absent : ∀ endpoint ∈ store.endpoints, endpoint.id ≠ id)
    : store.found id = .error ⟨.notFound, id⟩ := by
  cases present : store.found id with
  | ok endpoint =>
      obtain ⟨member, named⟩ := mem_of_found present
      exact absurd named (absent endpoint member)
  | error failure => rw [(eq_of_not_found present).1]

theorem IsFirst.found (first : store.IsFirst id front endpoint behind)
    : store.found id = .ok endpoint :=
  found_eq_ok_iff_isFirst.mpr ⟨front, behind, first⟩

theorem IsFirst.position? (first : store.IsFirst id front endpoint behind)
    : store.position? id = some front.length := by
  have passed : front.findIdx? (fun other => other.id = id) = none := by
    simpa using first.others
  rw [Store.position?, first.endpoints, List.findIdx?_append, passed, List.findIdx?_cons,
    if_pos (decide_eq_true first.named)]
  simp

-----------------------------------------------------------------------------------------
-- Changes and removals
-----------------------------------------------------------------------------------------

/-- A change is made where the endpoint stands. -/
theorem IsFirst.changed (first : store.IsFirst change.id front endpoint behind)
    : store.changed change = { store with endpoints := front ++ change.apply endpoint :: behind } := by
  unfold Store.changed
  rw [first.position?, first.found]
  dsimp only
  rw [first.endpoints, List.set_append_right _ _ (Nat.le_refl _), Nat.sub_self, List.set_cons_zero]

/-- A removal closes the gap where the endpoint stood. -/
theorem IsFirst.without (first : store.IsFirst id front endpoint behind)
    : store.without id = { store with endpoints := front ++ behind } := by
  unfold Store.without
  rw [first.endpoints, List.eraseP_append_right _ (by simpa using first.others),
    List.eraseP_cons_of_pos (by simpa using first.named)]

/-- A change leaves every id at its place. -/
theorem ids_changed (store : Store) (change : EndpointUpdate)
    : (store.changed change).endpoints.map Endpoint.id = store.endpoints.map Endpoint.id := by
  cases present : store.found change.id with
  | ok endpoint =>
      obtain ⟨front, behind, first⟩ := found_eq_ok_iff_isFirst.mp present
      rw [first.changed, first.endpoints, List.map_append, List.map_append]
      rfl
  | error failure => rw [changed_of_not_found present]

/-- Ids have the places after a change that they had before it. -/
theorem position?_changed (store : Store) (change : EndpointUpdate) (id : String)
    : (store.changed change).position? id = store.position? id := by
  have told (other : Store)
      : other.position? id = (other.endpoints.map Endpoint.id).findIdx? (fun name => name = id) := by
    rw [List.findIdx?_map]
    rfl
  rw [told, told, ids_changed]

end RecordQuery.Store
