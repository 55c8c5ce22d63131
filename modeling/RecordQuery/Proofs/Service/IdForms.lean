import Mathlib.Data.List.Induction
import RecordQuery.Proofs.Service.Effects
import RecordQuery.Proofs.Store.Ids

/-! The two forms of an endpoint's id: the store's, with its mark, and the one that clients are
told, without it. Ids are drawn as texts of hexadecimal digits, and the mark starts with a letter
that is no such digit. So no id that clients are told starts with the mark, and either form leads to
the same endpoint.
-/

namespace RecordQuery

namespace Store

/-- The digits of the texts of ids. -/
def idDigits : List Char :=
  ['0', '1', '2', '3', '4', '5', '6', '7', '8', '9', 'a', 'b', 'c', 'd', 'e', 'f']

/-- A text of 32 hexadecimal digits in lower case. -/
def IsIdText (text : String) : Prop :=
  text.length = 32 ∧ ∀ c ∈ text.toList, c ∈ idDigits

instance (text : String) : Decidable (IsIdText text) :=
  @instDecidableAnd _ _ _ (List.decidableBAll _ _)

/-- The store when the text of its next id is drawn. -/
def drawing (store : Store) (text : String) : Store :=
  { store with ids := fun _ => text }

end Store

/-- An endpoint as it may be told to clients: its id does not start with the store's mark. -/
def Endpoint.IsPublic (endpoint : Endpoint) : Prop :=
  ¬ idMark <+: endpoint.id.toList

namespace Service

/-- What each of some operations comes to, and the store after them; with each operation a text is
drawn for the id of the endpoint that it may create.
-/
def runDrawing (settings : QuerySettings) (store : Store)
    : List (String × Operation) → List (Except (Halt Failure) Json) × Store
  | [] => ([], store)
  | (text, operation) :: rest =>
    let (result, next) := (store.drawing text).perform (operation.action settings)
    let (results, last) := runDrawing settings next rest
    (result :: results, last)

/-- The endpoints that operations on a store tell are such as may be told to clients. -/
structure TellsPublicIds (settings : QuerySettings) (store : Store) : Prop where
  list : ∀ endpoints, (store.perform list).1 = .ok endpoints
    → ∀ endpoint ∈ endpoints, endpoint.IsPublic
  create : ∀ text, Store.IsIdText text → ∀ idProperty raw endpoint,
    ((store.drawing text).perform (create settings idProperty raw)).1 = .ok endpoint
    → endpoint.IsPublic
  update : ∀ id body endpoint, (store.perform (update id body)).1 = .ok endpoint
    → endpoint.IsPublic
  delete : ∀ id endpoint, (store.perform (delete id)).1 = .ok endpoint → endpoint.IsPublic

/-- Operations by two ids come to the same on a store, and leave the same store. -/
structure AnswersAlike (settings : QuerySettings) (store : Store) (id other : String) : Prop where
  query : ∀ text, store.perform (query settings id text) = store.perform (query settings other text)
  update : ∀ body, store.perform (update id body) = store.perform (update other body)
  delete : store.perform (delete id) = store.perform (delete other)
  schema : store.perform (schema id) = store.perform (schema other)

/-- Operations by an id are on the first endpoint that has some id of the store, and on no other.
Where there is none they fail, and leave the store as it is.
-/
inductive Reaches (settings : QuerySettings) (store : Store) (id storeId : String) : Prop
  | present {front behind : List Endpoint} {endpoint : Endpoint}
    (first : store.IsFirst storeId front endpoint behind)
    (query : ∀ text, store.perform (query settings id text)
      = (answer settings endpoint text, store))
    (update : ∀ body, store.perform (update id body)
      = match updateOf id body with
        | .ok change => (.ok (change.apply endpoint).forClients,
          { store with endpoints := front ++ change.apply endpoint :: behind })
        | .error failure => (.error failure, store))
    (delete : store.perform (delete id)
      = (.ok endpoint.forClients, { store with endpoints := front ++ behind }))
    (schema : store.perform (schema id)
      = ((Collection.parse endpoint.raw).map (Schema.infer schemaTitle), store))
  | absent (gone : ∀ endpoint ∈ store.endpoints, endpoint.id ≠ storeId)
    (query : ∀ text, store.perform (query settings id text)
      = (.error (.told ⟨.notFound, storeId⟩), store))
    (update : ∀ body, ∃ failure, store.perform (update id body) = (.error failure, store))
    (delete : store.perform (delete id) = (.error ⟨.notFound, storeId⟩, store))
    (schema : store.perform (schema id) = (.error ⟨.notFound, storeId⟩, store))

end Service

-----------------------------------------------------------------------------------------
-- The texts of ids
-----------------------------------------------------------------------------------------

namespace Store

/-- An endpoint that is created gets the id that was drawn. -/
theorem id_issue_drawing (store : Store) (text : String) (new : NewEndpoint)
    : ((store.drawing text).issue new).id = Endpoint.storeId text :=
  rfl

theorem not_idMark_prefix_of_isIdText {text : String} (drawn : IsIdText text)
    : ¬ Endpoint.idMark <+: text.toList := by
  rintro ⟨rest, same⟩
  have first : 'r' ∈ text.toList := by
    rw [← same]
    exact List.mem_cons_self
  exact absurd (drawn.2 'r' first) (by decide)

end Store

namespace Service

variable {settings : QuerySettings} {store : Store} {id other storeId : String}

-----------------------------------------------------------------------------------------
-- Operations by ids of either form
-----------------------------------------------------------------------------------------

/-- A change is asked for alike by all ids that stand for one of the store. -/
theorem updateOf_congr (same : Endpoint.anyStoreId id = Endpoint.anyStoreId other) (body : Json)
    : updateOf id body = updateOf other body := by
  cases body with
  | object fields => rw [updateOf_object, updateOf_object, same]
  | null => rfl
  | bool truth => rfl
  | number n => rfl
  | string s => rfl
  | array items => rfl

theorem answersAlike_of_eq (settings : QuerySettings) (store : Store)
    (same : Endpoint.anyStoreId id = Endpoint.anyStoreId other)
    : AnswersAlike settings store id other := by
  constructor
  case query => exact fun text => by rw [perform_query, perform_query, same]
  case update => exact fun body => by rw [perform_update, perform_update, updateOf_congr same]
  case delete => rw [perform_delete, perform_delete, same]
  case schema => rw [perform_schema, perform_schema, same]

/-- Whatever a store holds, operations by an id are on the first endpoint that has the store's. -/
theorem reaches (settings : QuerySettings) (store : Store)
    (stored : Endpoint.anyStoreId id = storeId)
    : Reaches settings store id storeId := by
  subst stored
  cases present : store.found (Endpoint.anyStoreId id) with
  | ok endpoint =>
      obtain ⟨front, behind, first⟩ := Store.found_eq_ok_iff_isFirst.mp present
      refine .present first (fun text => ?_) (fun body => ?_) ?_ ?_
      · rw [perform_query, present]
        rfl
      · rw [perform_update]
        cases accepted : updateOf id body with
        | error failure => rfl
        | ok change =>
            have named := id_of_updateOf accepted
            dsimp only
            rw [Store.IsFirst.changed (named ▸ first), named, present]
            rfl
      · rw [perform_delete, present, first.without]
        rfl
      · rw [perform_schema, present]
        rfl
  | error failure =>
      obtain ⟨rfl, absent⟩ := Store.eq_of_not_found present
      refine .absent absent (fun text => ?_) (fun body => ?_) ?_ ?_
      · rw [perform_query, present]
        rfl
      · rcases perform_update_cases store id body with done | ⟨_, _, _, _, _, first, _⟩
        · exact done
        · cases present.symm.trans first.found
      · rw [perform_delete, present, Store.without_of_not_found present]
        rfl
      · rw [perform_schema, present]
        rfl

-----------------------------------------------------------------------------------------
-- The ids of a run
-----------------------------------------------------------------------------------------

variable {text : String} {operation : Operation}

/-- An operation adds at most the id that is drawn for it, behind the others. -/
theorem Does.ids_sublist {result : Except (Halt Failure) Json} {next : Store}
    (does : Does settings (store.drawing text) operation result next)
    : (next.endpoints.map Endpoint.id).Sublist
        (store.endpoints.map Endpoint.id ++ [Endpoint.storeId text]) := by
  have kept : (store.endpoints.map Endpoint.id).Sublist
      (store.endpoints.map Endpoint.id ++ [Endpoint.storeId text]) := List.sublist_append_left _ _
  cases does with
  | idle | failed => exact kept
  | added _ =>
      dsimp only [Store.added]
      rw [List.map_append, List.map_singleton, Store.id_issue_drawing]
      exact List.Sublist.refl _
  | changed _ _ =>
      rw [Store.ids_changed]
      exact kept
  | removed _ => exact (List.eraseP_sublist.map _).trans kept

/-- The ids of a store after a run are some of those before it and of those that are drawn, by
induction on the run.
-/
theorem ids_runDrawing_sublist (settings : QuerySettings) (store : Store)
    (draws : List (String × Operation))
    : ((runDrawing settings store draws).2.endpoints.map Endpoint.id).Sublist
        (store.endpoints.map Endpoint.id ++ draws.map (fun draw => Endpoint.storeId draw.1)) := by
  induction draws generalizing store with
  | nil => simp [runDrawing]
  | cons draw rest ih =>
      have step := (does_perform settings (store.drawing draw.1) draw.2).ids_sublist
      have more := ih ((store.drawing draw.1).perform (draw.2.action settings)).2
      rw [List.map_cons, List.append_cons]
      exact more.trans (step.append_right _)

/-- A collection that is stored is told with the text that is drawn for it. -/
theorem exists_of_create (settings : QuerySettings) (store : Store)
    {idProperty : Option String} {raw body : Json}
    (created : ((store.drawing text).perform
      (Operation.action settings (.create idProperty raw))).1 = .ok body)
    : ∃ endpoint : Endpoint, endpoint.id = text ∧ body = endpoint.toJson := by
  rw [perform_action_create] at created
  cases accepted : accept settings idProperty raw with
  | error failure =>
      rw [accepted] at created
      cases created
  | ok new =>
      rw [accepted] at created
      refine ⟨((store.drawing text).issue new).forClients, ?_, (Except.ok.inj created).symm⟩
      rw [Endpoint.forClients, Store.id_issue_drawing, Store.publicId_storeId]

/-- So it is for all collections that are stored in a run, by induction on the run. -/
theorem exists_of_mem_runDrawing (settings : QuerySettings) (store : Store)
    {draws : List (String × Operation)} (texts : ∀ draw ∈ draws, Store.IsIdText draw.1)
    {idProperty : Option String} {raw body : Json}
    (created : ((text, .create idProperty raw), .ok body)
      ∈ draws.zip (runDrawing settings store draws).1)
    : Store.IsIdText text ∧ ∃ endpoint : Endpoint, endpoint.id = text ∧ body = endpoint.toJson := by
  induction draws generalizing store with
  | nil => cases created
  | cons draw rest ih =>
      obtain ⟨drawn, others⟩ := List.forall_mem_cons.mp texts
      rcases List.mem_cons.mp created with now | later
      · obtain ⟨rfl, result⟩ := Prod.mk.inj now
        exact ⟨drawn, exists_of_create settings store result.symm⟩
      · exact ih _ others later

-----------------------------------------------------------------------------------------
-- What clients are told
-----------------------------------------------------------------------------------------

theorem isPublic_of_drawn {endpoint : Endpoint} (drawn : Store.IsIdText text)
    (named : endpoint.id = Endpoint.storeId text)
    : endpoint.forClients.IsPublic := by
  rw [Endpoint.IsPublic, Endpoint.forClients, named, Store.publicId_storeId]
  exact Store.not_idMark_prefix_of_isIdText drawn

/-- No id of a store that has drawn ids is told with the mark. -/
theorem tellsPublicIds_of_drawn (settings : QuerySettings)
    (drawn : ∀ endpoint ∈ store.endpoints,
      ∃ text, Store.IsIdText text ∧ endpoint.id = Endpoint.storeId text)
    : TellsPublicIds settings store := by
  have told {old new : Endpoint} (stored : old ∈ store.endpoints) (same : new.id = old.id)
      : new.forClients.IsPublic := by
    obtain ⟨text, digits, named⟩ := drawn old stored
    exact isPublic_of_drawn digits (same.trans named)
  constructor
  case list =>
    rintro _ ⟨⟩ endpoint member
    obtain ⟨old, listed, rfl⟩ := List.mem_map.mp member
    exact told (List.mem_of_mem_take listed) rfl
  case create =>
    intro text digits idProperty raw endpoint created
    rw [perform_create] at created
    cases accepted : accept settings idProperty raw with
    | error failure =>
        rw [accepted] at created
        cases created
    | ok new =>
        rw [accepted] at created
        rw [← Except.ok.inj created]
        exact isPublic_of_drawn digits (Store.id_issue_drawing store text new)
  case update =>
    intro id body endpoint answered
    rcases perform_update_cases store id body with
      ⟨failure, done⟩ | ⟨change, front, old, behind, _, first, done⟩
    · rw [done] at answered
      cases answered
    · rw [done] at answered
      rw [← Except.ok.inj answered]
      exact told (Store.mem_of_found first.found).1 rfl
  case delete =>
    intro id endpoint answered
    rcases perform_delete_cases store id with ⟨failure, done⟩ | ⟨front, old, behind, first, done⟩
    · rw [done] at answered
      cases answered
    · rw [done] at answered
      rw [← Except.ok.inj answered]
      exact told (Store.mem_of_found first.found).1 rfl

/-- Whatever operations are done on a store that was empty, with texts of 32 digits drawn for the
ids, clients are told no id that starts with the store's mark. The text that was told of a
collection when it was stored, and the store's id with the mark, are ids of the same endpoint for
good: operations by them come to the same, on the first endpoint that has the store's id. It is the
only one that has it unless some text was drawn twice.
-/
theorem runDrawing_bothForms (settings : QuerySettings) (firstPageSize : UInt64) (ids : Nat → String)
    (draws : List (String × Operation)) (texts : ∀ draw ∈ draws, Store.IsIdText draw.1)
    : let results := (runDrawing settings (.empty firstPageSize ids) draws).1
      let store := (runDrawing settings (.empty firstPageSize ids) draws).2
      TellsPublicIds settings store
      ∧ (∀ text idProperty raw body,
        ((text, .create idProperty raw), .ok body) ∈ draws.zip results
        → (∃ endpoint : Endpoint, endpoint.id = text ∧ body = endpoint.toJson)
          ∧ AnswersAlike settings store text (Endpoint.storeId text)
          ∧ ∀ id ∈ [text, Endpoint.storeId text],
            Reaches settings store id (Endpoint.storeId text))
      ∧ ((draws.map Prod.fst).Nodup → (store.endpoints.map Endpoint.id).Nodup) := by
  intro results store
  have ids : (store.endpoints.map Endpoint.id).Sublist
      (draws.map fun draw => Endpoint.storeId draw.1) :=
    ids_runDrawing_sublist settings (.empty firstPageSize ids) draws
  refine ⟨tellsPublicIds_of_drawn settings fun endpoint stored => ?_, ?_, fun distinct => ?_⟩
  · obtain ⟨draw, member, same⟩ := List.mem_map.mp (ids.subset (List.mem_map_of_mem stored))
    exact ⟨draw.1, texts draw member, same.symm⟩
  · intro text idProperty raw body created
    obtain ⟨drawn, told⟩ := exists_of_mem_runDrawing settings _ texts created
    have bare : Endpoint.anyStoreId text = Endpoint.storeId text :=
      Store.anyStoreId_of_unmarked (Store.not_idMark_prefix_of_isIdText drawn)
    have marked := Store.anyStoreId_storeId text
    refine ⟨told, answersAlike_of_eq settings store (bare.trans marked.symm), ?_⟩
    simp only [List.forall_mem_cons]
    exact ⟨reaches settings store bare, reaches settings store marked, nofun⟩
  · have storeIds : (draws.map fun draw => Endpoint.storeId draw.1)
        = (draws.map Prod.fst).map Endpoint.storeId := by
      rw [List.map_map]
      rfl
    rw [storeIds] at ids
    exact ids.nodup (distinct.map fun _ _ => Store.storeId_injective)

/-- A collection that is stored and then changed by the id that clients were told. -/
def storedAndChanged : List (String × Operation) :=
  [("0123456789abcdef0123456789abcdef", .create none (.array [])),
    ("ffffffffffffffffffffffffffffffff",
      .update "0123456789abcdef0123456789abcdef" (.object [("raw", .array [.null])]))]

theorem runDrawing_bothForms_changed
    : let store := (runDrawing .standard (.empty 100 Store.countedId) storedAndChanged).2
      let text := "0123456789abcdef0123456789abcdef"
      let storeId := Endpoint.storeId text
      (∀ draw ∈ storedAndChanged, Store.IsIdText draw.1)
      ∧ TellsPublicIds .standard store
      ∧ AnswersAlike .standard store text storeId
      ∧ Reaches .standard store text storeId
      ∧ Reaches .standard store storeId storeId
      ∧ store.endpoints.map Endpoint.id = [storeId] := by
  intro store text storeId
  have texts : ∀ draw ∈ storedAndChanged, Store.IsIdText draw.1 := by decide
  obtain ⟨told, forms, _⟩ := runDrawing_bothForms .standard 100 Store.countedId storedAndChanged texts
  have created : ((text, Operation.create none (.array [])),
        Except.ok (Endpoint.toJson ⟨text, "id", "[]"⟩))
      ∈ storedAndChanged.zip (runDrawing .standard (.empty 100 Store.countedId) storedAndChanged).1 :=
    .head _
  obtain ⟨_, alike, reached⟩ := forms text none (.array []) _ created
  have ids : store.endpoints.map Endpoint.id = [storeId] := rfl
  exact ⟨texts, told, alike, reached text (.head _), reached storeId (.tail _ (.head _)),
    ids⟩

end Service

end RecordQuery
