import RecordQuery.Proofs.Store.Batches
import RecordQuery.Proofs.Store.Ids

/-! Runs of operations on a store and the journal that is kept of them. What a store holds is told by
the journal alone: the endpoints that were created and not destroyed, in the order in which they were
created, each with the fields of its last updates. The store is as good as that list.
-/

namespace RecordQuery

/-- The value of a field after some updates: the last one that was given, if any was. -/
def EndpointUpdate.latest (field : EndpointUpdate → Option String) (updates : List EndpointUpdate)
    (initial : String) : String :=
  (updates.filterMap field).getLast?.getD initial

/-- The endpoint after those of some updates that are on it. -/
def Endpoint.after (updates : List EndpointUpdate) (endpoint : Endpoint) : Endpoint :=
  let own := updates.filter (fun update => update.id = endpoint.id)
  ⟨endpoint.id, EndpointUpdate.latest EndpointUpdate.idProperty own endpoint.idProperty,
    EndpointUpdate.latest EndpointUpdate.raw own endpoint.raw⟩

namespace Store

/-- An operation on a store. -/
inductive Operation where
  | create (news : List NewEndpoint)
  | update (updates : List EndpointUpdate)
  | find (id : String)
  | destroy (id : String)
  | firstPage

/-- What an operation does, with the endpoints that it tells. -/
def Operation.action : Operation → StoreAction (List Endpoint)
  | .create news => Store.create news
  | .update updates => Store.update updates
  | .find id => do return [← Store.find id]
  | .destroy id => do return [← Store.destroy id]
  | .firstPage => Store.firstPage

/-- An operation that was done, and what it came to. -/
structure Entry where
  operation : Operation
  result : Except Failure (List Endpoint)

/-- The journal of some operations, one after the other, and the store after them. -/
def runAll (store : Store) : List Operation → List Entry × Store
  | [] => ([], store)
  | operation :: rest =>
    let (result, next) := store.perform operation.action
    let (entries, last) := runAll next rest
    (⟨operation, result⟩ :: entries, last)

/-- The endpoints that an entry tells as created. -/
def Entry.created : Entry → List Endpoint
  | ⟨.create _, .ok endpoints⟩ => endpoints
  | _ => []

/-- The updates that an entry tells as made. -/
def Entry.updated : Entry → List EndpointUpdate
  | ⟨.update updates, .ok _⟩ => updates
  | _ => []

/-- The ids whose endpoints an entry tells as destroyed. -/
def Entry.destroyed : Entry → List String
  | ⟨.destroy id, .ok _⟩ => [id]
  | _ => []

/-- The endpoints that a journal leaves: created and not destroyed, in the order of their creation,
each after its updates.
-/
def live (entries : List Entry) : List Endpoint :=
  ((entries.flatMap Entry.created).filter (fun endpoint =>
      endpoint.id ∉ entries.flatMap Entry.destroyed)).map
    (Endpoint.after (entries.flatMap Entry.updated))

/-- A store does what a list of endpoints with distinct ids does, with pages of some size. -/
structure IsListOf (store : Store) (size : UInt64) (endpoints : List Endpoint) : Prop where
  stored : store.endpoints = endpoints
  distinct : (endpoints.map Endpoint.id).Nodup
  marked : ∀ endpoint ∈ endpoints, Endpoint.idMark <+: endpoint.id.toList
  find : ∀ id endpoint, (store.perform (Store.find id)).1 = .ok endpoint
    ↔ endpoint ∈ endpoints ∧ endpoint.id = id
  destroy : ∀ id endpoint, (store.perform (Store.destroy id)).1 = .ok endpoint
    ↔ endpoint ∈ endpoints ∧ endpoint.id = id
  firstPage : (store.perform Store.firstPage).1
    = .ok (endpoints.take (min endpoints.length size.toNat))
  create : ∀ news, ∃ created, (store.perform (Store.create news)).1 = .ok created
    ∧ created.map (fun endpoint => ⟨endpoint.idProperty, endpoint.raw⟩) = news
  update : ∀ updates, (∃ updated, (store.perform (Store.update updates)).1 = .ok updated)
    ↔ ∀ update ∈ updates, ∃ endpoint ∈ endpoints, endpoint.id = update.id

-----------------------------------------------------------------------------------------
-- An endpoint after updates
-----------------------------------------------------------------------------------------

variable {store : Store} {endpoint : Endpoint} {entries : List Entry}

theorem latest_append (field : EndpointUpdate → Option String)
    (updates more : List EndpointUpdate) (initial : String)
    : EndpointUpdate.latest field (updates ++ more) initial
      = EndpointUpdate.latest field more (EndpointUpdate.latest field updates initial) := by
  unfold EndpointUpdate.latest
  rw [List.filterMap_append, List.getLast?_append]
  cases (more.filterMap field).getLast? with
  | none => rfl
  | some last => rfl

/-- Updates are made one after the other. -/
theorem after_append (updates more : List EndpointUpdate) (endpoint : Endpoint)
    : endpoint.after (updates ++ more) = (endpoint.after updates).after more := by
  rw [Endpoint.after, List.filter_append, latest_append, latest_append]
  rfl

/-- One update changes the fields that it gives, of the endpoint that it is on. -/
theorem after_singleton (change : EndpointUpdate) (endpoint : Endpoint)
    : endpoint.after [change] = change.applyIfOn endpoint := by
  unfold EndpointUpdate.applyIfOn
  split
  · next same =>
      rw [Endpoint.after, List.filter_cons_of_pos (by simpa using same.symm)]
      obtain ⟨_, _ | _, _ | _⟩ := change <;> rfl
  · next other =>
      rw [Endpoint.after, List.filter_cons_of_neg (by simpa using Ne.symm other)]
      rfl

/-- Updates of other endpoints change nothing. -/
theorem after_of_others {updates : List EndpointUpdate}
    (others : ∀ update ∈ updates, update.id ≠ endpoint.id)
    : endpoint.after updates = endpoint := by
  rw [Endpoint.after, List.filter_eq_nil_iff.mpr (by simpa using others)]
  rfl

-----------------------------------------------------------------------------------------
-- Batches
-----------------------------------------------------------------------------------------

/-- The endpoints that a store makes of some collections. -/
def issueAll (store : Store) : List NewEndpoint → List Endpoint
  | [] => []
  | new :: rest => store.issue new :: issueAll (store.added new) rest

/-- The store with some more collections. -/
def addedAll (store : Store) (news : List NewEndpoint) : Store :=
  news.foldl added store

theorem perform_create (store : Store) (news : List NewEndpoint)
    : store.perform (create news) = (.ok (store.issueAll news), store.addedAll news) := by
  unfold create
  induction news generalizing store with
  | nil => rfl
  | cons new rest ih =>
      rw [List.mapM_cons, perform_bind, perform_createOne]
      dsimp only
      rw [perform_bind_pure, ih]
      rfl

theorem map_issueAll (store : Store) (news : List NewEndpoint)
    : (store.issueAll news).map (fun endpoint => ⟨endpoint.idProperty, endpoint.raw⟩) = news := by
  induction news generalizing store with
  | nil => rfl
  | cons new rest ih => exact congrArg (new :: ·) (ih _)

theorem endpoints_addedAll (store : Store) (news : List NewEndpoint)
    : (store.addedAll news).endpoints = store.endpoints ++ store.issueAll news := by
  induction news generalizing store with
  | nil => exact (List.append_nil _).symm
  | cons new rest ih =>
      refine (ih (store.added new)).trans ?_
      exact List.append_assoc _ [_] _

/-- Changes in a row are made on each endpoint in a row, by induction on the changes. -/
theorem IsOrderly.changedAll (orderly : store.IsOrderly) (changes : List EndpointUpdate)
    : (store.changedAll changes).IsOrderly
      ∧ (store.changedAll changes).endpoints = store.endpoints.map (Endpoint.after changes) := by
  induction changes generalizing store with
  | nil =>
      refine ⟨orderly, ?_⟩
      have same : ∀ endpoint ∈ store.endpoints, endpoint.after [] = endpoint := fun _ _ => rfl
      rw [List.map_congr_left same, List.map_id']
      rfl
  | cons change rest ih =>
      obtain ⟨kept, endpoints⟩ := ih (orderly.changed change)
      refine ⟨kept, endpoints.trans ?_⟩
      rw [orderly.endpoints_changed, List.map_map]
      refine List.map_congr_left fun endpoint _ => ?_
      rw [Function.comp_apply, ← after_singleton, ← after_append]
      rfl

theorem IsOrderly.addedAll (orderly : store.IsOrderly) (news : List NewEndpoint)
    : (store.addedAll news).IsOrderly := by
  induction news generalizing store with
  | nil => exact orderly
  | cons new rest ih => exact ih (orderly.added new)

-----------------------------------------------------------------------------------------
-- One operation
-----------------------------------------------------------------------------------------

/-- A store that is as its journal tells. What the journal tells as updated or destroyed has been
created, so its ids are not issued again.
-/
structure IsRecordedBy (store : Store) (entries : List Entry) : Prop where
  orderly : store.IsOrderly
  updated : ∀ update ∈ entries.flatMap Entry.updated, store.HasIssued update.id
  destroyed : ∀ id ∈ entries.flatMap Entry.destroyed, store.HasIssued id
  endpoints : store.endpoints = live entries

theorem live_concat (entries : List Entry) (entry : Entry)
    : live (entries ++ [entry])
      = ((entries.flatMap Entry.created ++ entry.created).filter (fun endpoint =>
          endpoint.id ∉ entries.flatMap Entry.destroyed ++ entry.destroyed)).map
        (Endpoint.after (entries.flatMap Entry.updated ++ entry.updated)) := by
  simp only [live, List.flatMap_append, List.flatMap_singleton]

/-- What a journal with one more entry tells was told before, or the entry tells it. -/
theorem mem_flatMap_concat {α : Type} {tells : Entry → List α} {entry : Entry} {x : α}
    : x ∈ (entries ++ [entry]).flatMap tells ↔ x ∈ entries.flatMap tells ∨ x ∈ tells entry := by
  rw [List.flatMap_append, List.flatMap_singleton, List.mem_append]

/-- An entry that tells of nothing that was done leaves the same endpoints. -/
theorem IsRecordedBy.unchanged (recorded : store.IsRecordedBy entries) {entry : Entry}
    (created : entry.created = []) (updated : entry.updated = []) (destroyed : entry.destroyed = [])
    : store.IsRecordedBy (entries ++ [entry]) := by
  constructor
  case orderly => exact recorded.orderly
  case updated => simpa [updated] using recorded.updated
  case destroyed => simpa [destroyed] using recorded.destroyed
  case endpoints => simp [live, created, updated, destroyed, recorded.endpoints]

theorem hasIssued_addedAll {id : String} {news : List NewEndpoint} (issued : store.HasIssued id)
    : (store.addedAll news).HasIssued id := by
  induction news generalizing store with
  | nil => exact issued
  | cons new rest ih => exact ih (hasIssued_added.mpr (.inl issued))

theorem hasIssued_changedAll {id : String} (changes : List EndpointUpdate)
    : (store.changedAll changes).HasIssued id ↔ store.HasIssued id := by
  induction changes generalizing store with
  | nil => exact .rfl
  | cons change rest ih =>
      have later : ((store.changed change).changedAll rest).HasIssued id
          ↔ (store.changed change).HasIssued id := ih
      exact later.trans hasIssued_changed

theorem firstPageSize_addedAll (store : Store) (news : List NewEndpoint)
    : (store.addedAll news).firstPageSize = store.firstPageSize := by
  induction news generalizing store with
  | nil => rfl
  | cons new rest ih => exact ih (store.added new)

theorem firstPageSize_changedAll (store : Store) (changes : List EndpointUpdate)
    : (store.changedAll changes).firstPageSize = store.firstPageSize := by
  induction changes generalizing store with
  | nil => rfl
  | cons change rest ih => exact (ih (store.changed change)).trans (firstPageSize_changed store change)

/-- The ids of new endpoints were not issued before. -/
theorem not_hasIssued_issueAll (fresh : Function.Injective store.ids) {news : List NewEndpoint}
    (member : endpoint ∈ store.issueAll news)
    : ¬ store.HasIssued endpoint.id := by
  induction news generalizing store with
  | nil => cases member
  | cons new rest ih =>
      rcases List.mem_cons.mp member with rfl | later
      · exact not_hasIssued_issue fresh new
      · have supply : Function.Injective (store.added new).ids := fresh
        exact fun issued => ih supply later (hasIssued_added.mpr (.inl issued))

/-- New endpoints are the last ones, and no entry so far is on them. -/
theorem IsRecordedBy.create (recorded : store.IsRecordedBy entries) (news : List NewEndpoint)
    : (store.addedAll news).IsRecordedBy
        (entries ++ [⟨.create news, .ok (store.issueAll news)⟩]) := by
  constructor
  case orderly => exact recorded.orderly.addedAll news
  case updated =>
    intro update member
    rcases mem_flatMap_concat.mp member with earlier | none
    · exact hasIssued_addedAll (recorded.updated update earlier)
    · cases none
  case destroyed =>
    intro id member
    rcases mem_flatMap_concat.mp member with earlier | none
    · exact hasIssued_addedAll (recorded.destroyed id earlier)
    · cases none
  case endpoints =>
    have supply := recorded.orderly.fresh
    have kept : (store.issueAll news).filter (fun endpoint =>
        endpoint.id ∉ entries.flatMap Entry.destroyed) = store.issueAll news := by
      apply List.filter_eq_self.mpr
      intro endpoint member
      simp only [decide_eq_true_eq]
      exact fun destroyed => not_hasIssued_issueAll supply member (recorded.destroyed _ destroyed)
    have fresh : ∀ endpoint ∈ store.issueAll news,
        endpoint.after (entries.flatMap Entry.updated) = endpoint := by
      intro endpoint member
      apply after_of_others
      rintro update updated same
      exact not_hasIssued_issueAll supply member (same ▸ recorded.updated update updated)
    rw [endpoints_addedAll, recorded.endpoints, live_concat]
    simp only [Entry.created, Entry.destroyed, Entry.updated, List.append_nil]
    rw [List.filter_append, List.map_append, kept, List.map_congr_left fresh, List.map_id']
    rfl

/-- Updates are made on the endpoints that are there, after the updates so far. -/
theorem IsRecordedBy.update (recorded : store.IsRecordedBy entries) {updates : List EndpointUpdate}
    (present : ∀ update ∈ updates, update.id ∈ store.endpoints.map Endpoint.id)
    (updated : List Endpoint)
    : (store.changedAll updates).IsRecordedBy (entries ++ [⟨.update updates, .ok updated⟩]) := by
  obtain ⟨orderly, endpoints⟩ := recorded.orderly.changedAll updates
  constructor
  case orderly => exact orderly
  case updated =>
    intro update member
    rw [hasIssued_changedAll]
    rcases mem_flatMap_concat.mp member with earlier | now
    · exact recorded.updated update earlier
    · obtain ⟨endpoint, stored, same⟩ := List.mem_map.mp (present update now)
      exact same ▸ recorded.orderly.issued endpoint stored
  case destroyed =>
    intro id member
    rw [hasIssued_changedAll]
    rcases mem_flatMap_concat.mp member with earlier | none
    · exact recorded.destroyed id earlier
    · cases none
  case endpoints =>
    rw [endpoints, recorded.endpoints, live_concat]
    simp only [Entry.created, Entry.destroyed, Entry.updated, List.append_nil]
    rw [live, List.map_map]
    exact List.map_congr_left fun endpoint _ => (after_append _ _ endpoint).symm

/-- An endpoint that is destroyed is missing from then on. -/
theorem IsRecordedBy.destroy (recorded : store.IsRecordedBy entries) {id : String}
    (present : store.found id = .ok endpoint)
    : (store.without id).IsRecordedBy (entries ++ [⟨.destroy id, .ok [endpoint]⟩]) := by
  constructor
  case orderly => exact recorded.orderly.without id
  case updated =>
    intro update member
    rcases mem_flatMap_concat.mp member with earlier | none
    · exact recorded.updated update earlier
    · cases none
  case destroyed =>
    intro other member
    rcases mem_flatMap_concat.mp member with earlier | now
    · exact recorded.destroyed other earlier
    · obtain ⟨stored, rfl⟩ := mem_of_found present
      rw [List.mem_singleton.mp now]
      exact recorded.orderly.issued endpoint stored
  case endpoints =>
    rw [recorded.orderly.endpoints_without, recorded.endpoints, live_concat, live, List.filter_map,
      List.filter_filter]
    simp only [Entry.created, Entry.destroyed, Entry.updated, List.append_nil]
    congr 1
    apply List.filter_congr
    intro endpoint _
    by_cases named : endpoint.id = id <;> simp [Endpoint.after, named]

/-- An operation leaves the store that its entry tells of, with pages of the same size. -/
theorem IsRecordedBy.perform (recorded : store.IsRecordedBy entries) (operation : Operation)
    : (store.perform operation.action).2.IsRecordedBy
        (entries ++ [⟨operation, (store.perform operation.action).1⟩])
      ∧ (store.perform operation.action).2.firstPageSize = store.firstPageSize := by
  cases operation with
  | create news =>
      rw [Operation.action, perform_create]
      exact ⟨recorded.create news, firstPageSize_addedAll store news⟩
  | update updates =>
      rw [Operation.action]
      rcases perform_update_cases store updates with
        ⟨updated, made, present⟩ | ⟨missing, _, made, _⟩
      · rw [made]
        exact ⟨recorded.update present updated, firstPageSize_changedAll store updates⟩
      · rw [made]
        exact ⟨recorded.unchanged rfl rfl rfl, rfl⟩
  | find id =>
      rw [Operation.action, perform_bind_pure, perform_find]
      exact ⟨recorded.unchanged rfl rfl rfl, rfl⟩
  | destroy id =>
      rw [Operation.action, perform_bind_pure, perform_destroy]
      cases present : store.found id with
      | ok endpoint => exact ⟨recorded.destroy present, rfl⟩
      | error failure =>
          dsimp only
          rw [without_of_not_found present]
          exact ⟨recorded.unchanged rfl rfl rfl, rfl⟩
  | firstPage => exact ⟨recorded.unchanged rfl rfl rfl, rfl⟩

-----------------------------------------------------------------------------------------
-- Operations in a row
-----------------------------------------------------------------------------------------

/-- A run leaves the store that its journal tells of, by induction on the operations. -/
theorem IsRecordedBy.runAll (recorded : store.IsRecordedBy entries) (operations : List Operation)
    : (store.runAll operations).2.IsRecordedBy (entries ++ (store.runAll operations).1)
      ∧ (store.runAll operations).2.firstPageSize = store.firstPageSize := by
  induction operations generalizing store entries with
  | nil => exact ⟨(List.append_nil entries).symm ▸ recorded, rfl⟩
  | cons operation rest ih =>
      obtain ⟨next, size⟩ := recorded.perform operation
      obtain ⟨last, sizes⟩ := ih next
      rw [List.append_assoc] at last
      exact ⟨last, sizes.trans size⟩

/-- What a store does that is as its journal tells. -/
theorem IsRecordedBy.isListOf (recorded : store.IsRecordedBy entries)
    : store.IsListOf store.firstPageSize (live entries) := by
  have orderly := recorded.orderly
  have stored := recorded.endpoints
  constructor
  case stored => exact stored
  case distinct => exact stored ▸ orderly.distinct
  case marked =>
    intro endpoint member
    exact idMark_prefix_of_hasIssued (orderly.issued endpoint (stored ▸ member))
  case find =>
    intro id endpoint
    rw [perform_find, ← stored]
    exact orderly.found_eq_ok_iff
  case destroy =>
    intro id endpoint
    rw [perform_destroy, ← stored]
    exact orderly.found_eq_ok_iff
  case firstPage =>
    rw [← stored, Nat.min_comm, ← List.take_eq_take_min]
    rfl
  case create =>
    intro news
    exact ⟨store.issueAll news, by rw [perform_create], map_issueAll store news⟩
  case update =>
    intro updates
    have there (id : String)
        : id ∈ store.endpoints.map Endpoint.id ↔ ∃ endpoint ∈ live entries, endpoint.id = id := by
      rw [stored, List.mem_map]
    rcases perform_update_cases store updates with
      ⟨updated, made, present⟩ | ⟨missing, member, made, lost⟩
    · rw [made]
      exact ⟨fun _ update member => (there _).mp (present update member), fun _ => ⟨updated, rfl⟩⟩
    · rw [made]
      constructor
      · rintro ⟨_, ⟨⟩⟩
      · exact fun present => absurd ((there _).mpr (present missing member)) lost

/-- Whatever operations are done on a store that was empty, it does then what the list does of the
endpoints that were created and not destroyed, in the order of their creation, each after its
updates; an endpoint that was destroyed is not found again. No text may be drawn twice for ids.
-/
theorem runAll_empty_isListOf (firstPageSize : UInt64) {ids : Nat → String}
    (fresh : Function.Injective ids) (operations : List Operation)
    : (runAll (.empty firstPageSize ids) operations).2.IsListOf firstPageSize
        (live (runAll (.empty firstPageSize ids) operations).1)
      ∧ ∀ id ∈ (runAll (.empty firstPageSize ids) operations).1.flatMap Entry.destroyed,
        ((runAll (.empty firstPageSize ids) operations).2.perform (Store.find id)).1
          = .error ⟨.notFound, id⟩ := by
  have started : (empty firstPageSize ids).IsRecordedBy [] := {
    orderly := isOrderly_empty firstPageSize fresh
    updated := fun _ none => nomatch none
    destroyed := fun _ none => nomatch none
    endpoints := rfl
  }
  obtain ⟨recorded, size⟩ := started.runAll operations
  rw [List.nil_append] at recorded
  constructor
  · have list := recorded.isListOf
    rw [size] at list
    exact list
  · intro id destroyed
    rw [perform_find]
    apply found_eq_error
    rw [recorded.endpoints]
    rintro endpoint member rfl
    obtain ⟨created, kept, rfl⟩ := List.mem_map.mp member
    exact of_decide_eq_true (List.mem_filter.mp kept).2 destroyed

/-- A batch of two, of which the first is taken out and the other one is changed. -/
def changedBatch : List Operation :=
  [
    .create [⟨"id", "[]"⟩, ⟨"id", "[1]"⟩], .destroy (Endpoint.storeId (countedId 0)),
    .update [⟨Endpoint.storeId (countedId 1), some "name", none⟩],
    .find (Endpoint.storeId (countedId 0))
  ]

theorem runAll_empty_isListOf_changedBatch
    : Function.Injective countedId
      ∧ (runAll (.empty 100 countedId) changedBatch).2.IsListOf 100
        [⟨Endpoint.storeId (countedId 1), "name", "[1]"⟩]
      ∧ ((runAll (.empty 100 countedId) changedBatch).2.perform
          (Store.find (Endpoint.storeId (countedId 0)))).1
        = .error ⟨.notFound, Endpoint.storeId (countedId 0)⟩ := by
  have fresh := isIdSupply_countedId.distinct
  obtain ⟨list, lost⟩ := runAll_empty_isListOf 100 fresh changedBatch
  have left : live (runAll (.empty 100 countedId) changedBatch).1
      = [⟨Endpoint.storeId (countedId 1), "name", "[1]"⟩] := by
    decide +kernel
  have destroyed : Endpoint.storeId (countedId 0)
      ∈ (runAll (.empty 100 countedId) changedBatch).1.flatMap Entry.destroyed := by
    decide +kernel
  rw [left] at list
  exact ⟨fresh, list, lost _ destroyed⟩

end Store

end RecordQuery
