import RecordQuery.Proofs.Except
import RecordQuery.Service

/-! What actions on a store come to: the result or the failure, and the store afterwards. -/

namespace RecordQuery

namespace Store

/-- The result of an action on a store, and the store afterwards. -/
def perform (store : Store) (action : ExceptT ε (StateM Store) α) : Except ε α × Store :=
  action.run.run store

/-- The endpoint with an id, or the failure to find one. -/
def found (store : Store) (id : String) : Except Failure Endpoint :=
  match store.endpoints.find? (fun endpoint => endpoint.id = id) with
  | some endpoint => .ok endpoint
  | none => .error ⟨.notFound, id⟩

/-- The endpoint that a store makes of a collection. -/
def issue (store : Store) (new : NewEndpoint) : Endpoint :=
  ⟨store.nextId, new.idProperty, new.raw⟩

/-- The store with one more collection. -/
def added (store : Store) (new : NewEndpoint) : Store :=
  { store with endpoints := store.endpoints ++ [store.issue new], drawn := store.drawn + 1 }

/-- The store with one endpoint changed, if it is there. -/
def changed (store : Store) (change : EndpointUpdate) : Store :=
  match store.position? change.id, store.found change.id with
  | some place, .ok endpoint =>
    { store with endpoints := store.endpoints.set place (change.apply endpoint) }
  | _, _ => store

/-- The store without an endpoint. -/
def without (store : Store) (id : String) : Store :=
  { store with endpoints := store.endpoints.eraseP (fun endpoint => endpoint.id = id) }

variable {store : Store} {id : String} {endpoint : Endpoint}

-----------------------------------------------------------------------------------------
-- Finding an endpoint
-----------------------------------------------------------------------------------------

theorem mem_of_found (present : store.found id = .ok endpoint)
    : endpoint ∈ store.endpoints ∧ endpoint.id = id := by
  unfold found at present
  split at present
  · next searched =>
      cases present
      have named := List.find?_some searched
      exact ⟨List.mem_of_find?_eq_some searched, of_decide_eq_true named⟩
  · cases present

/-- An id that is not found is told, and no endpoint has it. -/
theorem eq_of_not_found {failure : Failure} (absent : store.found id = .error failure)
    : failure = ⟨.notFound, id⟩ ∧ ∀ endpoint ∈ store.endpoints, endpoint.id ≠ id := by
  unfold found at absent
  split at absent
  · cases absent
  · next searched =>
      cases absent
      refine ⟨rfl, fun endpoint member same => ?_⟩
      exact List.find?_eq_none.mp searched endpoint member (decide_eq_true same)

/-- An endpoint that is found has a place. -/
theorem exists_position? (present : store.found id = .ok endpoint)
    : ∃ place, store.position? id = some place := by
  obtain ⟨member, named⟩ := mem_of_found present
  rw [← Option.isSome_iff_exists, position?, List.findIdx?_isSome]
  exact List.any_eq_true.mpr ⟨endpoint, member, decide_eq_true named⟩

/-- Without the endpoint there is nothing to change. -/
theorem changed_of_not_found {change : EndpointUpdate} {failure : Failure}
    (absent : store.found change.id = .error failure)
    : store.changed change = store := by
  unfold changed
  rw [absent]
  split
  · next present => cases present
  · rfl

/-- Without the endpoint there is nothing to take out. -/
theorem without_of_not_found {failure : Failure} (absent : store.found id = .error failure)
    : store.without id = store := by
  unfold without
  rw [List.eraseP_of_forall_not fun endpoint member same =>
    (eq_of_not_found absent).2 endpoint member (of_decide_eq_true same)]

-----------------------------------------------------------------------------------------
-- Actions in a row
-----------------------------------------------------------------------------------------

/-- The next action sees the store that the first one leaves; after a failure there is none. -/
theorem perform_bind (store : Store) (action : ExceptT ε (StateM Store) α)
    (next : α → ExceptT ε (StateM Store) β)
    : store.perform (action >>= next)
      = match store.perform action with
        | (.ok result, after) => after.perform (next result)
        | (.error failure, after) => (.error failure, after) := by
  change (fun performed => ExceptT.bindCont next performed.1 performed.2) (store.perform action) = _
  rcases store.perform action with ⟨_ | _, _⟩
  · rfl
  · rfl

/-- A change of the result leaves the store to the action. -/
theorem perform_bind_pure (store : Store) (action : ExceptT ε (StateM Store) α) (change : α → β)
    : store.perform (action >>= fun value => pure (change value))
      = ((store.perform action).1.map change, (store.perform action).2) := by
  rw [perform_bind]
  rcases store.perform action with ⟨_ | _, _⟩
  · rfl
  · rfl

/-- What does not need the store leaves it as it is. -/
theorem perform_lift (store : Store) (result : Except ε α)
    : store.perform (liftM result : ExceptT ε (StateM Store) α) = (result, store) :=
  rfl

theorem perform_get (store : Store)
    : store.perform (get : ExceptT ε (StateM Store) Store) = (.ok store, store) :=
  rfl

/-- Among the operations that may stop the program, an action that does not tells its failures. -/
theorem perform_halting (store : Store) (action : StoreAction α)
    : store.perform action.halting
      = ((store.perform action).1.mapError .told, (store.perform action).2) :=
  rfl

-----------------------------------------------------------------------------------------
-- Actions of the store
-----------------------------------------------------------------------------------------

theorem perform_find (store : Store) (id : String)
    : store.perform (find id) = (store.found id, store) := by
  unfold found
  change store.perform (match store.endpoints.find? (fun endpoint => endpoint.id = id) with
    | some endpoint => pure endpoint
    | none => notFound id) = _
  cases store.endpoints.find? (fun endpoint => endpoint.id = id) with
  | none => rfl
  | some endpoint => rfl

theorem perform_createOne (store : Store) (new : NewEndpoint)
    : store.perform (createOne new) = (.ok (store.issue new), store.added new) :=
  rfl

/-- One collection as a batch of its own. -/
theorem perform_create_singleton (store : Store) (new : NewEndpoint)
    : store.perform (create [new]) = (.ok [store.issue new], store.added new) :=
  rfl

theorem perform_updateOne (store : Store) (change : EndpointUpdate)
    : store.perform (updateOne change)
      = ((store.found change.id).map change.apply, store.changed change) := by
  rw [updateOne, perform_bind, perform_get]
  dsimp only
  rw [perform_bind, perform_find]
  cases present : store.found change.id with
  | error failure =>
      rw [changed_of_not_found present]
      rfl
  | ok endpoint =>
      obtain ⟨place, placed⟩ := exists_position? present
      unfold changed
      dsimp only
      rw [placed, present]
      rfl

theorem perform_destroy (store : Store) (id : String)
    : store.perform (destroy id) = (store.found id, store.without id) := by
  rw [destroy, perform_bind, perform_get]
  dsimp only
  rw [perform_bind, perform_find]
  cases present : store.found id with
  | ok endpoint => rfl
  | error failure =>
      rw [without_of_not_found present]

end Store

end RecordQuery
