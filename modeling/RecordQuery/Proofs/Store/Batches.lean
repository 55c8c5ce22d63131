import Mathlib.Data.List.Forall2
import RecordQuery.Proofs.FirstFailure
import RecordQuery.Proofs.Store.Places

/-! Batches of updates. A batch is made as a whole or not at all; the first id that no endpoint has
is told. A batch that is made does what its updates do one after the other. No update moves an
endpoint or changes an id, so the places that are looked up before the first update serve for all.
-/

namespace RecordQuery

/-- An endpoint after some updates has its id, and it has what none of those on it gives. -/
structure Endpoint.IsKeptBy (updates : List EndpointUpdate) (old new : Endpoint) : Prop where
  id : new.id = old.id
  unnamed : (∀ update ∈ updates, update.id ≠ old.id) → new = old
  idProperty : (∀ update ∈ updates, update.id = old.id → update.idProperty = none)
    → new.idProperty = old.idProperty
  raw : (∀ update ∈ updates, update.id = old.id → update.raw = none) → new.raw = old.raw

namespace Store

/-- An update fails for an id that no endpoint has. -/
def Misses (store : Store) (update : EndpointUpdate) (failure : Failure) : Prop :=
  (∀ endpoint ∈ store.endpoints, endpoint.id ≠ update.id) ∧ failure = ⟨.notFound, update.id⟩

/-- The updates one after the other, each as a batch of its own. -/
def updateOneByOne : List EndpointUpdate → StoreAction (List Endpoint)
  | [] => return []
  | change :: rest => do
    let first ← update [change]
    let others ← updateOneByOne rest
    return first ++ others

/-- The store after some changes, one after the other. -/
def changedAll (store : Store) (changes : List EndpointUpdate) : Store :=
  changes.foldl changed store

/-- The place of the endpoint that an update is on. -/
def place (store : Store) (update : EndpointUpdate) : Except Failure Nat :=
  match store.position? update.id with
  | some place => .ok place
  | none => .error ⟨.notFound, update.id⟩

/-- What is told of updates that are made at given places, and the endpoints after them; nothing
where a place is outside.
-/
def updatedAt (endpoints : List Endpoint)
    : List (EndpointUpdate × Nat) → Option (List Endpoint × List Endpoint)
  | [] => some ([], endpoints)
  | (update, place) :: rest => do
    let endpoint ← endpoints[place]?
    let (told, last) ← updatedAt (endpoints.set place (update.apply endpoint)) rest
    return (update.apply endpoint :: told, last)

/-- What updates come to in two passes: all places are looked up before the first update is made. -/
def updatedInTwoPasses (store : Store) (updates : List EndpointUpdate)
    : Option (Except Failure (List Endpoint) × Store) :=
  match updates.mapM store.place with
  | .error failure => some (.error failure, store)
  | .ok places => do
    let (told, last) ← updatedAt store.endpoints (updates.zip places)
    return (.ok told, { store with endpoints := last })

variable {store : Store} {change : EndpointUpdate} {updates : List EndpointUpdate}
  {places : List Nat}

-----------------------------------------------------------------------------------------
-- Looking up the places
-----------------------------------------------------------------------------------------

/-- The place of an update is the one of the endpoint that is found for it. -/
theorem place_eq (store : Store) (change : EndpointUpdate)
    : (∃ front endpoint behind, store.IsFirst change.id front endpoint behind
        ∧ store.place change = .ok front.length)
      ∨ (∀ endpoint ∈ store.endpoints, endpoint.id ≠ change.id)
        ∧ store.place change = .error ⟨.notFound, change.id⟩ := by
  unfold place
  cases present : store.found change.id with
  | ok endpoint =>
      obtain ⟨front, behind, first⟩ := found_eq_ok_iff_isFirst.mp present
      exact .inl ⟨front, endpoint, behind, first, by rw [first.position?]⟩
  | error failure =>
      have absent := (eq_of_not_found present).2
      have nowhere : store.position? change.id = none := by
        simpa [position?] using absent
      exact .inr ⟨absent, by rw [nowhere]⟩

/-- The look-up of the places fails with the first update that has none. -/
theorem takesInTurn_places (store : Store) (updates : List EndpointUpdate)
    : TakesInTurn store.Misses updates (updates.mapM store.place) := by
  induction updates with
  | nil => exact .ok []
  | cons change rest ih =>
      rw [List.mapM_cons]
      have first : TakesInTurn store.Misses [change] (store.place change) := by
        refine .singleton fun failure => ?_
        rcases place_eq store change with ⟨front, endpoint, behind, first, found⟩ | ⟨absent, lost⟩
        · have stored : endpoint ∈ store.endpoints := by simp [first.endpoints]
          rw [found]
          exact ⟨nofun, fun missed => absurd first.named (missed.1 endpoint stored)⟩
        · rw [lost]
          exact ⟨fun same => ⟨absent, (Except.error.inj same).symm⟩, fun missed => by rw [missed.2]⟩
      exact first.bind fun place _ => ih.map (place :: ·)

/-- A change leaves the places of all updates as they are. -/
theorem place_changed (store : Store) (change : EndpointUpdate)
    : (store.changed change).place = store.place := by
  funext update
  rw [place, place, position?_changed]

/-- Places are found for a first update and for the others in the same store. -/
theorem exists_of_places_cons {rest : List EndpointUpdate}
    (looked : (change :: rest).mapM store.place = .ok places)
    : ∃ front endpoint behind others, store.IsFirst change.id front endpoint behind
        ∧ places = front.length :: others
        ∧ rest.mapM (store.changed change).place = .ok others := by
  rw [List.mapM_cons] at looked
  obtain ⟨place, first, looked⟩ := exists_of_bind_eq_ok looked
  obtain ⟨others, more, looked⟩ := exists_of_bind_eq_ok looked
  cases looked
  rcases place_eq store change with ⟨front, endpoint, behind, found, same⟩ | ⟨_, lost⟩
  · cases first.symm.trans same
    exact ⟨front, endpoint, behind, others, found, rfl, by rw [place_changed, more]⟩
  · cases first.symm.trans lost

-----------------------------------------------------------------------------------------
-- Updates that all have their endpoints
-----------------------------------------------------------------------------------------

/-- The look-up of the places fails just where a search for an update without one succeeds. -/
theorem mapM_place (store : Store) (updates : List EndpointUpdate)
    : updates.mapM store.place
      = match updates.find? (fun update => (store.position? update.id).isNone) with
        | some missing => .error ⟨.notFound, missing.id⟩
        | none => .ok (updates.filterMap fun update => store.position? update.id) := by
  induction updates with
  | nil => rfl
  | cons change rest ih =>
      rw [List.mapM_cons, ih, place, List.find?_cons, List.filterMap_cons]
      cases store.position? change.id with
      | none => rfl
      | some place =>
          cases rest.find? (fun update => (store.position? update.id).isNone) with
          | none => rfl
          | some missing => rfl

/-- A batch is made update by update, if each of them has a place in the store as it is. -/
theorem perform_update_eq (store : Store) (updates : List EndpointUpdate)
    : store.perform (update updates)
      = match updates.mapM store.place with
        | .error failure => (.error failure, store)
        | .ok _ => store.perform (updates.mapM updateOne) := by
  rw [update, perform_bind, perform_get, mapM_place]
  dsimp only
  cases updates.find? (fun update => (store.position? update.id).isNone) with
  | none => rfl
  | some missing => rfl

/-- One update as a batch of its own. -/
theorem perform_update_singleton (store : Store) (change : EndpointUpdate)
    : store.perform (update [change])
      = ((store.found change.id).map (fun endpoint => [change.apply endpoint]),
          store.changed change) := by
  have one : [change].mapM store.place = (store.place change).map ([·]) := by
    rw [List.mapM_cons]
    cases store.place change with
    | ok place => rfl
    | error failure => rfl
  rw [perform_update_eq, one]
  rcases place_eq store change with ⟨front, endpoint, behind, first, found⟩ | ⟨absent, lost⟩
  · rw [found, first.found, List.mapM_cons]
    dsimp only [Except.map]
    rw [perform_bind, perform_updateOne, first.found]
    rfl
  · rw [lost, found_eq_error absent, changed_of_not_found (found_eq_error absent)]
    rfl

/-- Updates that have places are made where they were looked up, and nothing else is done, by
induction on the updates.
-/
theorem perform_updateAll (looked : updates.mapM store.place = .ok places)
    : ∃ told, store.perform (updates.mapM updateOne) = (.ok told, store.changedAll updates)
        ∧ store.perform (updateOneByOne updates) = (.ok told, store.changedAll updates)
        ∧ updatedAt store.endpoints (updates.zip places)
          = some (told, (store.changedAll updates).endpoints) := by
  induction updates generalizing store places with
  | nil => exact ⟨[], rfl, rfl, rfl⟩
  | cons change rest ih =>
      obtain ⟨front, endpoint, behind, others, first, rfl, more⟩ := exists_of_places_cons looked
      obtain ⟨told, made, oneByOne, placed⟩ := ih more
      refine ⟨change.apply endpoint :: told, ?_, ?_, ?_⟩
      · rw [List.mapM_cons, perform_bind, perform_updateOne, first.found]
        dsimp only [Except.map]
        rw [perform_bind_pure, made]
        rfl
      · rw [updateOneByOne, perform_bind, perform_update_singleton, first.found]
        dsimp only [Except.map]
        rw [perform_bind_pure, oneByOne]
        rfl
      · have here : store.endpoints[front.length]? = some endpoint := by simp [first.endpoints]
        have set : store.endpoints.set front.length (change.apply endpoint)
            = (store.changed change).endpoints := by
          simp [first.changed, first.endpoints, List.set_append_right]
        rw [List.zip_cons_cons, updatedAt, here, Option.bind_eq_bind, Option.bind_some, set, placed]
        rfl

/-- Updates are all made, or none of them where an endpoint is missing. -/
theorem perform_update_cases (store : Store) (updates : List EndpointUpdate)
    : (∃ updated, store.perform (update updates) = (.ok updated, store.changedAll updates)
        ∧ ∀ update ∈ updates, update.id ∈ store.endpoints.map Endpoint.id)
      ∨ ∃ missing ∈ updates, store.perform (update updates) = (.error ⟨.notFound, missing.id⟩, store)
        ∧ missing.id ∉ store.endpoints.map Endpoint.id := by
  have inTurn := takesInTurn_places store updates
  rw [perform_update_eq]
  cases looked : updates.mapM store.place with
  | error failure =>
      rw [looked] at inTurn
      obtain ⟨missing, member, absent, rfl⟩ := FirstFails.exists_mem inTurn
      exact .inr ⟨missing, member, rfl, by simpa using absent⟩
  | ok places =>
      rw [looked] at inTurn
      obtain ⟨told, made, _⟩ := perform_updateAll looked
      refine .inl ⟨told, made, fun update member => ?_⟩
      by_contra lost
      exact inTurn update member _ ⟨by simpa using lost, rfl⟩

-----------------------------------------------------------------------------------------
-- What updates leave as it was
-----------------------------------------------------------------------------------------

theorem isKeptBy_refl (updates : List EndpointUpdate) (endpoint : Endpoint)
    : endpoint.IsKeptBy updates endpoint :=
  ⟨rfl, fun _ => rfl, fun _ => rfl, fun _ => rfl⟩

/-- A change keeps the fields of its endpoint that it does not give. -/
theorem isKeptBy_apply {endpoint : Endpoint} (named : endpoint.id = change.id)
    : endpoint.IsKeptBy [change] (change.apply endpoint) := by
  constructor
  case id => rfl
  case unnamed => exact fun others => absurd named.symm (others change List.mem_cons_self)
  case idProperty =>
    intro none
    rw [EndpointUpdate.apply, none change List.mem_cons_self named.symm, Option.getD_none]
  case raw =>
    intro none
    rw [EndpointUpdate.apply, none change List.mem_cons_self named.symm, Option.getD_none]

theorem isKeptBy_cons {old middle new : Endpoint} (first : old.IsKeptBy [change] middle)
    (more : middle.IsKeptBy updates new)
    : old.IsKeptBy (change :: updates) new := by
  constructor
  case id => exact more.id.trans first.id
  case unnamed =>
    intro others
    obtain ⟨now, later⟩ := List.forall_mem_cons.mp others
    rw [more.unnamed (first.id ▸ later), first.unnamed (List.forall_mem_singleton.mpr now)]
  case idProperty =>
    intro none
    obtain ⟨now, later⟩ := List.forall_mem_cons.mp none
    rw [more.idProperty (first.id ▸ later), first.idProperty (List.forall_mem_singleton.mpr now)]
  case raw =>
    intro none
    obtain ⟨now, later⟩ := List.forall_mem_cons.mp none
    rw [more.raw (first.id ▸ later), first.raw (List.forall_mem_singleton.mpr now)]

theorem forall₂_isKeptBy_cons {olds middles news : List Endpoint}
    (first : List.Forall₂ (Endpoint.IsKeptBy [change]) olds middles)
    (more : List.Forall₂ (Endpoint.IsKeptBy updates) middles news)
    : List.Forall₂ (Endpoint.IsKeptBy (change :: updates)) olds news := by
  induction first generalizing news with
  | nil =>
      cases more
      exact .nil
  | cons kept _ ih =>
      cases more with
      | cons kept' more => exact .cons (isKeptBy_cons kept kept') (ih more)

theorem forall₂_isKeptBy_changed (store : Store) (change : EndpointUpdate)
    : List.Forall₂ (Endpoint.IsKeptBy [change]) store.endpoints
        (store.changed change).endpoints := by
  have kept (endpoints : List Endpoint)
      : List.Forall₂ (Endpoint.IsKeptBy [change]) endpoints endpoints :=
    List.forall₂_same.mpr fun endpoint _ => isKeptBy_refl _ endpoint
  cases present : store.found change.id with
  | ok endpoint =>
      obtain ⟨front, behind, first⟩ := found_eq_ok_iff_isFirst.mp present
      rw [first.changed, first.endpoints]
      exact List.rel_append (kept front) (.cons (isKeptBy_apply first.named) (kept behind))
  | error failure =>
      rw [changed_of_not_found present]
      exact kept store.endpoints

/-- Updates in a row keep the endpoints where they are, by induction on the updates. -/
theorem forall₂_isKeptBy_changedAll (store : Store) (updates : List EndpointUpdate)
    : List.Forall₂ (Endpoint.IsKeptBy updates) store.endpoints
        (store.changedAll updates).endpoints := by
  induction updates generalizing store with
  | nil => exact List.forall₂_same.mpr fun endpoint _ => isKeptBy_refl [] endpoint
  | cons change rest ih =>
      exact forall₂_isKeptBy_cons (forall₂_isKeptBy_changed store change) (ih _)

theorem with_endpoints_changed (store : Store) (change : EndpointUpdate) (endpoints : List Endpoint)
    : { store.changed change with endpoints := endpoints }
      = { store with endpoints := endpoints } := by
  unfold changed
  split
  · rfl
  · rfl

/-- Updates change nothing of a store but its endpoints. -/
theorem changedAll_eq (store : Store) (updates : List EndpointUpdate)
    : store.changedAll updates
      = { store with endpoints := (store.changedAll updates).endpoints } := by
  induction updates generalizing store with
  | nil => rfl
  | cons change rest ih =>
      exact (ih (store.changed change)).trans (with_endpoints_changed store change _)

-----------------------------------------------------------------------------------------
-- Batches
-----------------------------------------------------------------------------------------

/-- A batch of updates fails just where an endpoint is missing, with the first id that no endpoint
has, and leaves the store as it was. Otherwise it tells the endpoints that its updates tell one after
the other, and leaves the store that they leave. In either case the endpoints are the same ones in
the same order; those that no update is on, and the fields that none on them gives, are as before.
All this is the same where the places are looked up first and the updates are made there.
-/
theorem perform_update_allOrNone (store : Store) (updates : List EndpointUpdate)
    : let result := (store.perform (update updates)).1
      let next := (store.perform (update updates)).2
      (∀ failure, result = .error failure ↔ FirstFails store.Misses updates failure)
      ∧ (∀ failure, result = .error failure → next = store)
      ∧ (∀ told, result = .ok told → store.perform (updateOneByOne updates) = (.ok told, next))
      ∧ List.Forall₂ (Endpoint.IsKeptBy updates) store.endpoints next.endpoints
      ∧ store.updatedInTwoPasses updates = some (result, next) := by
  intro result next
  have single : ∀ update failure other, store.Misses update failure → store.Misses update other
      → failure = other := fun _ _ _ missed again => missed.2.trans again.2.symm
  have fails (failure : Failure)
      : updates.mapM store.place = .error failure ↔ FirstFails store.Misses updates failure :=
    (takesInTurn_places store updates).eq_error_iff single
  have performed : store.perform (update updates) = (result, next) := rfl
  rw [perform_update_eq] at performed
  unfold updatedInTwoPasses
  cases looked : updates.mapM store.place with
  | error failure =>
      rw [looked] at fails performed
      obtain ⟨first, last⟩ := Prod.mk.inj performed
      rw [← first, ← last]
      refine ⟨fun other => ?_, fun _ _ => rfl, nofun, ?_, rfl⟩
      · rw [← fails other, Except.error.injEq, Except.error.injEq]
      · exact List.forall₂_same.mpr fun endpoint _ => isKeptBy_refl updates endpoint
  | ok places =>
      obtain ⟨told, made, oneByOne, placed⟩ := perform_updateAll looked
      rw [looked] at fails performed
      obtain ⟨first, last⟩ := Prod.mk.inj (made.symm.trans performed)
      rw [← first, ← last]
      refine ⟨fun failure => ?_, nofun, ?_, forall₂_isKeptBy_changedAll store updates, ?_⟩
      · rw [← fails failure]
        exact ⟨nofun, nofun⟩
      · rintro _ ⟨⟩
        exact oneByOne
      · dsimp only
        rw [placed, Option.bind_eq_bind, Option.bind_some, ← changedAll_eq]
        rfl

end Store

end RecordQuery
