import RecordQuery.Config.Basic
import RecordQuery.Proofs.Query.BoundQueries
import RecordQuery.Proofs.Service.Effects
import RecordQuery.Proofs.Service.LastWrite

/-! Requests that leave everything to the configuration. What the check of a configuration asks is
all that they need: a collection is stored under the id property of the configuration, and a query that
gives no sizes gets a page of the sizes of the configuration, for as long as its endpoint is there.
-/

namespace RecordQuery

/-- What a configuration that passes its check is known to have. -/
structure Config.IsUsable (config : Config) : Prop where
  top : config.query.defaultTop ≠ 0
  pageSize : config.query.defaultPageSize ≠ 0
  idProperty : ∃ path, PropertyPath.parse config.query.idProperty = .ok path
  firstPageSize : config.firstPageSize ≠ 0

theorem Config.ne_zero_of_checkSize {setting : Setting} {size : UInt64}
    (checked : checkSize setting size = .ok ())
    : size ≠ 0 := by
  rintro rfl
  cases checked

/-- A configuration passes its check where no size is zero and the id property is a path. -/
theorem Config.check_eq_ok_iff {config : Config} : config.check = .ok () ↔ config.IsUsable := by
  constructor
  · intro checked
    obtain ⟨_, top, checked⟩ := exists_of_bind_eq_ok checked
    obtain ⟨_, pageSize, checked⟩ := exists_of_bind_eq_ok checked
    cases read : PropertyPath.parse config.query.idProperty with
    | error error =>
        rw [read] at checked
        cases checked
    | ok path =>
        rw [read] at checked
        exact ⟨ne_zero_of_checkSize top, ne_zero_of_checkSize pageSize, ⟨path, read⟩,
          ne_zero_of_checkSize checked⟩
  · rintro ⟨top, pageSize, ⟨path, read⟩, firstPageSize⟩
    unfold check checkSize
    rw [if_neg top, if_neg pageSize, if_neg firstPageSize, read]
    rfl

-----------------------------------------------------------------------------------------
-- Queries that give no sizes
-----------------------------------------------------------------------------------------

/-- The parameters of a query string, with or without a question mark in front. -/
def Query.pairsOf (text : String) : List FormEncoding.Pair :=
  FormEncoding.decode
    (if text.toList.head? = some '?' then String.ofList text.toList.tail else text)

/-- Parameters that say at most how pages are told apart, and behind which cursor one starts. -/
structure Query.IsPlain (pairs : List FormEncoding.Pair) : Prop where
  absent : ∀ parameter ∈ [Parameter.filter, .orderBy, .select, .skip, .top, .pageNumber, .pageSize],
    parameter.value? pairs = none
  known : ∀ text ∈ Parameter.pagingType.value? pairs,
    Text.trimmed text ∈ ["offset", "cursor", "paging"]

variable {defaults : PageDefaults} {pairs : List FormEncoding.Pair}

/-- A parameter that is not given leaves what there is without it. -/
theorem Parameter.readWith_of_none {parameter : Parameter} (absent : parameter.value? pairs = none)
    (default : α) (parse : String → Except QueryError α)
    : parameter.readWith pairs default parse = .ok default := by
  rw [readWith, absent]

theorem CountName.read_of_none (name : CountName) (absent : name.parameter.value? pairs = none)
    (default : UInt64)
    : name.read pairs default = .ok default := by
  rw [read, absent]

/-- Without sizes, a page of the sizes that there are is asked for, in each way of paging. -/
theorem PageRequest.exists_ofPairs_of_isPlain (plain : Query.IsPlain pairs)
    (top : defaults.top ≠ 0) (pageSize : defaults.pageSize ≠ 0)
    : ∃ request, PageRequest.ofPairs defaults pairs = .ok request ∧ request.check = .ok () := by
  have skip := CountName.read_of_none .skip (plain.absent .skip (by simp)) 0
  have tops := CountName.read_of_none .top (plain.absent .top (by simp)) defaults.top
  have number := CountName.read_of_none .pageNumber (plain.absent .pageNumber (by simp)) 1
  have size := CountName.read_of_none .pageSize (plain.absent .pageSize (by simp)) defaults.pageSize
  unfold PageRequest.ofPairs
  cases given : Parameter.pagingType.value? pairs with
  | none =>
      refine ⟨.offset 0 defaults.top, ?_, rfl⟩
      simp only [Option.map_none, skip, tops, bind, Except.bind, pure, Except.pure, check]
  | some text =>
      have known := plain.known text given
      simp only [List.mem_cons, List.not_mem_nil, or_false] at known
      rcases known with offset | cursor | paging
      · refine ⟨.offset 0 defaults.top, ?_, rfl⟩
        simp only [Option.map_some, offset, skip, tops, bind, Except.bind, pure, Except.pure, check]
      · refine ⟨.cursor (Parameter.after.value? pairs) defaults.top, ?_, if_neg top⟩
        simp only [Option.map_some, cursor, tops, bind, Except.bind, pure, Except.pure, check,
          if_neg top]
      · refine ⟨.paging 1 defaults.pageSize, ?_, if_neg pageSize⟩
        simp only [Option.map_some, paging, number, size, bind, Except.bind, pure, Except.pure,
          check, if_neg pageSize]
        rfl

/-- A plain query string gives a query that takes a page of all records. -/
theorem Query.exists_ofString_of_isPlain (defaults : PageDefaults) {text : String}
    (plain : Query.IsPlain (pairsOf text)) (top : defaults.top ≠ 0) (pageSize : defaults.pageSize ≠ 0)
    : ∃ request, Query.ofString defaults text = .ok ⟨none, [], [], request⟩
      ∧ request.check = .ok () := by
  obtain ⟨request, asked, checked⟩ := PageRequest.exists_ofPairs_of_isPlain plain top pageSize
  refine ⟨request, ?_, checked⟩
  have pairs : Query.ofString defaults text = Query.ofPairs defaults (pairsOf text) :=
    ofString_eq_ofPairs defaults text
  rw [pairs, ofPairs, Parameter.readWith_of_none (plain.absent .filter (by simp)),
    Parameter.readWith_of_none (plain.absent .orderBy (by simp)),
    Parameter.readWith_of_none (plain.absent .select (by simp)), asked]
  rfl

namespace Service

variable {settings : QuerySettings} {store next : Store} {id : String}

/-- An endpoint with a collection and a path answers every plain query string. -/
theorem exists_answer_of_isPlain {endpoint : Endpoint} {records : List Json} {path : PropertyPath}
    (read : Collection.parse endpoint.raw = .ok records)
    (named : PropertyPath.parse endpoint.idProperty = .ok path) (top : settings.defaultTop ≠ 0)
    (pageSize : settings.defaultPageSize ≠ 0) {text : String}
    (plain : Query.IsPlain (Query.pairsOf text))
    : ∃ result, answer settings endpoint text = .ok result := by
  obtain ⟨request, bound, checked⟩ :=
    Query.exists_ofString_of_isPlain settings.pageDefaults plain top pageSize
  have checked : (⟨none, [], [], request⟩ : Query).page.check = .ok () := checked
  rcases Query.isAnswered_or_failsOnTypes_or_stopsSorting checked path.cursor records
    with ⟨_, _, page, _, ran, _⟩ | ⟨_, _, filter, none, _⟩ | ⟨_, kept, _, unsorted, _⟩
  · refine ⟨⟨⟨none, [], [], request⟩, page⟩, ?_⟩
    rw [answer_eq read named, Query.answer, bound]
    dsimp only [bind, Except.bind, Except.mapError]
    rw [ran]
  · cases none
  · cases (SortKey.sort_nil kept).symm.trans unsorted

-----------------------------------------------------------------------------------------
-- Endpoints that are left alone
-----------------------------------------------------------------------------------------

/-- An operation that changes the endpoint with an id of the store, or takes it out. -/
def Operation.IsOn (id : String) : Operation → Prop
  | .update other _ | .delete other => Endpoint.anyStoreId other = id
  | _ => False

/-- A store after another one, with an endpoint as it was there. -/
structure Leaves (id : String) (store next : Store) : Prop where
  orderly : next.IsOrderly
  issued : next.HasIssued id
  found : next.found id = store.found id

variable {operation : Operation} {result : Except (Halt Failure) Json}

/-- Operations keep the ids of a store distinct and issued. -/
theorem Does.isOrderly (does : Does settings store operation result next)
    (orderly : store.IsOrderly)
    : next.IsOrderly := by
  cases does with
  | idle | failed => exact orderly
  | added _ => exact orderly.added _
  | changed _ _ => exact orderly.changed _
  | removed _ => exact orderly.without _

/-- The texts that ids are drawn from stay as they are. -/
theorem Does.supply (does : Does settings store operation result next)
    : next.ids = store.ids := by
  cases does with
  | idle | failed => rfl
  | added _ => rfl
  | changed _ _ => exact Store.supply_changed store _
  | removed _ => rfl

/-- An operation that is not on an endpoint leaves it as it was. -/
theorem Does.leaves (does : Does settings store operation result next)
    (orderly : store.IsOrderly) (issued : store.HasIssued id) (other : ¬ operation.IsOn id)
    : Leaves id store next := by
  refine ⟨does.isOrderly orderly, ?_, ?_⟩
  · cases does with
    | idle | failed => exact issued
    | added _ => exact Store.hasIssued_added.mpr (.inl issued)
    | changed _ _ => exact Store.hasIssued_changed.mpr issued
    | removed _ => exact issued
  · cases does with
    | idle | failed => rfl
    | @added _ _ new _ =>
        have differ : id ≠ (store.issue new).id := by
          rintro rfl
          exact Store.not_hasIssued_issue orderly.fresh new issued
        exact (orderly.found_added new id).trans (if_neg differ)
    | @changed _ _ change _ accepted _ =>
        have differ : id ≠ change.id := by
          rw [id_of_updateOf accepted]
          exact fun same => other same.symm
        exact (orderly.found_changed change id).trans (if_neg differ)
    | removed present =>
        exact (orderly.found_without _ id).trans (if_neg fun same => other same.symm)

/-- A run keeps the ids of a store distinct and issued, by induction on the operations. -/
theorem isOrderly_runAll (orderly : store.IsOrderly) (operations : List Operation)
    : (runAll settings store operations).2.IsOrderly := by
  induction operations generalizing store with
  | nil => exact orderly
  | cons operation rest ih => exact ih ((does_perform settings store operation).isOrderly orderly)

theorem supply_runAll (settings : QuerySettings) (store : Store) (operations : List Operation)
    : (runAll settings store operations).2.ids = store.ids := by
  induction operations generalizing store with
  | nil => rfl
  | cons operation rest ih => exact (ih _).trans (does_perform settings store operation).supply

/-- A run leaves an endpoint as it was that none of its operations is on, by induction on them. -/
theorem leaves_runAll (orderly : store.IsOrderly) (issued : store.HasIssued id)
    {operations : List Operation} (others : ∀ operation ∈ operations, ¬ operation.IsOn id)
    : Leaves id store (runAll settings store operations).2 := by
  induction operations generalizing store with
  | nil => exact ⟨orderly, issued, rfl⟩
  | cons operation rest ih =>
      rw [List.forall_mem_cons] at others
      have first := (does_perform settings store operation).leaves orderly issued others.1
      have more := ih first.orderly first.issued others.2
      exact ⟨more.orderly, more.issued, more.found.trans first.found⟩

-----------------------------------------------------------------------------------------
-- Requests under a configuration that is checked
-----------------------------------------------------------------------------------------

/-- Under a configuration that passes its check, every array is stored, whatever was done before,
and its endpoint answers every plain query string, whatever is done in between but to change it or
to take it out. No text is drawn twice for ids, and none starts with the store's mark. To be read
back from its text, the array must not be nested more deeply than a text may be, its numbers are
read back, and its objects have distinct names.
-/
theorem plainRequests_of_check {config : Config} (checked : config.check = .ok ())
    (firstPageSize : UInt64) {ids : Nat → String} (supply : Store.IsIdSupply ids)
    (before : List Operation) (records : List Json)
    : let store := (runAll config.query (.empty firstPageSize ids) before).2
      ∃ endpoint next,
        store.perform (create config.query none (.array records)) = (.ok endpoint, next)
        ∧ (Json.nesting (.array records) ≤ Json.defaultNesting
          → (Json.array records).ReadsBack
          → (Json.array records).HasDistinctKeys
          → ∀ after : List Operation,
            (∀ operation ∈ after, ¬ operation.IsOn (Endpoint.anyStoreId endpoint.id))
            → ∀ text, Query.IsPlain (Query.pairsOf text)
            → let later := (runAll config.query next after).2
              ∃ result, later.perform (query config.query endpoint.id text) = (.ok result, later)) := by
  intro store
  obtain ⟨top, pageSize, ⟨path, named⟩, _⟩ := Config.check_eq_ok_iff.mp checked
  have orderly : store.IsOrderly :=
    isOrderly_runAll (Store.isOrderly_empty firstPageSize supply.distinct) before
  let new : NewEndpoint := ⟨config.query.idProperty, (Json.array records).render⟩
  have accepted : accept config.query none (.array records) = .ok new := by
    simp only [accept, Collection.text, Option.getD_none, PropertyPath.check, named,
      Except.mapError, bind, Except.bind, pure, Except.pure, new]
  have issued : (store.added new).HasIssued (store.issue new).id :=
    Store.hasIssued_added.mpr (.inr rfl)
  have unmarked : ∀ number, ¬ Endpoint.idMark <+: ((store.added new).ids number).toList := by
    have same : (store.added new).ids = ids := supply_runAll config.query _ before
    exact same ▸ supply.unmarked
  refine ⟨(store.issue new).forClients, store.added new, by rw [perform_create, accepted], ?_⟩
  rw [Endpoint.forClients, Store.anyStoreId_publicId unmarked issued]
  intro shallow back distinct after others text plain later
  have kept : Leaves (store.issue new).id (store.added new) later :=
    leaves_runAll (orderly.added new) issued others
  have read : Collection.parse (store.issue new).raw = .ok records := by
    rw [Collection.parse, Store.issue, Json.read?_render_of_hasDistinctKeys distinct back shallow]
  obtain ⟨result, answered⟩ := exists_answer_of_isPlain read named top pageSize plain
  refine ⟨result, ?_⟩
  rw [perform_query, Store.anyStoreId_publicId unmarked issued, kept.found, orderly.found_added,
    if_pos rfl, Except.mapError, Except.bind, answered]

/-- Small pages, and ids of records one level deep. -/
def smallPages : Config :=
  ⟨⟨"info", .pretty⟩, ⟨2, 3, "key/id"⟩, 100⟩

/-- Of two endpoints the first is deleted, and the second is asked for a page behind a cursor. -/
theorem plainRequests_of_check_smallPages
    : let store := (runAll smallPages.query (.empty 100 Store.countedId)
        [.create none (.array [])]).2
      let records := [Json.object [("key", .object [("id", .string "a")])], .null]
      let after : List Operation := [.delete (Store.countedId 0), .list]
      let text := "?pagingtype=+cursor&$after=a&skip="
      smallPages.check = .ok () ∧ Store.IsIdSupply Store.countedId
      ∧ Json.nesting (.array records) ≤ Json.defaultNesting ∧ (Json.array records).ReadsBack
      ∧ (Json.array records).HasDistinctKeys ∧ Query.IsPlain (Query.pairsOf text)
      ∧ ∃ endpoint next,
        store.perform (create smallPages.query none (.array records)) = (.ok endpoint, next)
        ∧ (∀ operation ∈ after, ¬ operation.IsOn (Endpoint.anyStoreId endpoint.id))
        ∧ let later := (runAll smallPages.query next after).2
          ∃ result, later.perform (query smallPages.query endpoint.id text) = (.ok result, later) := by
  intro store records after text
  have checked : smallPages.check = .ok () := by decide
  have supply := Store.isIdSupply_countedId
  have shallow : Json.nesting (.array records) ≤ Json.defaultNesting := by decide
  have back : (Json.array records).ReadsBack := by
    simp [records, Json.ReadsBack, Json.ItemsReadBack, Json.FieldsReadBack]
  have distinct : (Json.array records).HasDistinctKeys := by
    simp [records, Json.HasDistinctKeys, Json.ItemsHaveDistinctKeys, Json.FieldsHaveDistinctKeys]
  have plain : Query.IsPlain (Query.pairsOf text) := by
    have type : Parameter.pagingType.value? (Query.pairsOf text) = some " cursor" := by
      decide +kernel
    refine ⟨by decide +kernel, fun given named => ?_⟩
    rw [type] at named
    cases named
    decide +kernel
  obtain ⟨endpoint, next, created, answers⟩ :=
    plainRequests_of_check checked 100 supply [.create none (.array [])] records
  have second : (store.perform (create smallPages.query none (.array records))).1.map Endpoint.id
      = .ok (Store.countedId 1) := by
    decide +kernel
  have others : ∀ operation ∈ after, ¬ operation.IsOn (Endpoint.anyStoreId endpoint.id) := by
    rw [created] at second
    rw [Except.ok.inj second]
    simp only [after, List.forall_mem_cons, Operation.IsOn, not_false_eq_true, List.not_mem_nil,
      false_imp_iff, implies_true, and_true]
    decide +kernel
  exact ⟨checked, supply, shallow, back, distinct, plain, endpoint, next, created, others,
    answers shallow back distinct after others text plain⟩

end Service

end RecordQuery
