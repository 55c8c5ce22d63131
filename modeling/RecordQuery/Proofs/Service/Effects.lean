import RecordQuery.Proofs.Service.Runs
import RecordQuery.Proofs.Store.Places

/-! What operations do to the endpoints of a store. One that fails does nothing. A change by an id is
made on the first endpoint that has it, and a removal takes that one out; no other endpoint is
touched, and no endpoint gets another id.
-/

namespace RecordQuery.Service

variable {settings : QuerySettings} {store : Store} {id : String} {body : Json}

-----------------------------------------------------------------------------------------
-- Changes and removals by an id
-----------------------------------------------------------------------------------------

/-- The change that a body asks for is on the endpoint with the id that is given beside it. -/
theorem id_of_updateOf {change : EndpointUpdate} (accepted : updateOf id body = .ok change)
    : change.id = Endpoint.anyStoreId id := by
  cases body with
  | object fields =>
      rw [updateOf_object] at accepted
      obtain ⟨idProperty, _, accepted⟩ := exists_of_bind_eq_ok accepted
      obtain ⟨raw, _, accepted⟩ := exists_of_bind_eq_ok accepted
      split at accepted
      · cases accepted
        rfl
      · cases accepted
  | null => cases accepted
  | bool truth => cases accepted
  | number n => cases accepted
  | string s => cases accepted
  | array items => cases accepted

/-- A change either fails and does nothing, or it is made where the endpoint with the id stands. -/
theorem perform_update_cases (store : Store) (id : String) (body : Json)
    : (∃ failure, store.perform (update id body) = (.error failure, store))
      ∨ ∃ change front endpoint behind, updateOf id body = .ok change
        ∧ store.IsFirst (Endpoint.anyStoreId id) front endpoint behind
        ∧ store.perform (update id body)
          = (.ok (change.apply endpoint).forClients,
              { store with endpoints := front ++ change.apply endpoint :: behind }) := by
  rw [perform_update]
  cases accepted : updateOf id body with
  | error failure => exact .inl ⟨failure, rfl⟩
  | ok change =>
      have named := id_of_updateOf accepted
      dsimp only
      cases present : store.found change.id with
      | error failure => exact .inl ⟨failure, by rw [Store.changed_of_not_found present]; rfl⟩
      | ok endpoint =>
          obtain ⟨front, behind, first⟩ := Store.found_eq_ok_iff_isFirst.mp present
          exact .inr ⟨change, front, endpoint, behind, rfl, named ▸ first, by rw [first.changed]; rfl⟩

/-- A removal either fails and does nothing, or it takes out the endpoint with the id. -/
theorem perform_delete_cases (store : Store) (id : String)
    : (∃ failure, store.perform (delete id) = (.error failure, store))
      ∨ ∃ front endpoint behind, store.IsFirst (Endpoint.anyStoreId id) front endpoint behind
        ∧ store.perform (delete id)
          = (.ok endpoint.forClients, { store with endpoints := front ++ behind }) := by
  rw [perform_delete]
  cases present : store.found (Endpoint.anyStoreId id) with
  | error failure => exact .inl ⟨failure, by rw [Store.without_of_not_found present]; rfl⟩
  | ok endpoint =>
      obtain ⟨front, behind, first⟩ := Store.found_eq_ok_iff_isFirst.mp present
      exact .inr ⟨front, endpoint, behind, first, by rw [first.without]; rfl⟩

-----------------------------------------------------------------------------------------
-- Operations
-----------------------------------------------------------------------------------------

/-- An operation without a result leaves the store as it was. -/
theorem eq_of_perform_action_error {operation : Operation} {halt : Halt Failure}
    (failed : (store.perform (operation.action settings)).1 = .error halt)
    : (store.perform (operation.action settings)).2 = store := by
  have does := does_perform settings store operation
  rw [failed] at does
  generalize (store.perform (operation.action settings)).2 = next at does ⊢
  cases does with
  | idle | failed => rfl

/-- Whatever a store holds, an operation that fails or stops leaves it as it was, for whatever reason
it does. A change that is made is made on one endpoint, which has the id that is given for it and keeps
that id, whatever the body says; a removal takes out one endpoint, which has the id that is given.
All other endpoints stay in their order, as they are.
-/
theorem perform_action_isConfined (settings : QuerySettings) (store : Store)
    : (∀ operation halt, (store.perform (Operation.action settings operation)).1 = .error halt
        → (store.perform (Operation.action settings operation)).2 = store)
      ∧ (∀ id body told, (store.perform (update id body)).1 = .ok told
        → ∃ front old new behind, store.IsFirst (Endpoint.anyStoreId id) front old behind
          ∧ (store.perform (update id body)).2 = { store with endpoints := front ++ new :: behind }
          ∧ new.id = old.id ∧ told = new.forClients)
      ∧ ∀ id told, (store.perform (delete id)).1 = .ok told
        → ∃ front old behind, store.IsFirst (Endpoint.anyStoreId id) front old behind
          ∧ (store.perform (delete id)).2 = { store with endpoints := front ++ behind }
          ∧ told = old.forClients := by
  refine ⟨fun operation halt => eq_of_perform_action_error, ?_, ?_⟩
  · intro id body told answered
    rcases perform_update_cases store id body with
      ⟨failure, done⟩ | ⟨change, front, old, behind, _, first, done⟩
    · rw [done] at answered
      cases answered
    · rw [done] at answered ⊢
      exact ⟨front, old, change.apply old, behind, first, rfl, rfl, (Except.ok.inj answered).symm⟩
  · intro id told answered
    rcases perform_delete_cases store id with ⟨failure, done⟩ | ⟨front, old, behind, first, done⟩
    · rw [done] at answered
      cases answered
    · rw [done] at answered ⊢
      exact ⟨front, old, behind, first, rfl, (Except.ok.inj answered).symm⟩

end RecordQuery.Service
