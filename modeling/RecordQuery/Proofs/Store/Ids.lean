import Mathlib.Data.List.Nodup
import RecordQuery.Proofs.Json.Scalars
import RecordQuery.Proofs.Store.Places

/-! The ids of a store. Where no text is drawn twice no id is issued twice, and an endpoint is told
apart from all others by its id: a change meets that endpoint alone, and so does a removal. Where no
text starts with the store's mark, an id is found again from the form that clients are told.
-/

namespace RecordQuery

/-- The endpoint after a change that may be one of another endpoint. -/
def EndpointUpdate.applyIfOn (change : EndpointUpdate) (endpoint : Endpoint) : Endpoint :=
  if endpoint.id = change.id then change.apply endpoint else endpoint

namespace Store

/-- The texts that ids are drawn from: none comes twice, and none starts with the store's mark. -/
structure IsIdSupply (ids : Nat → String) : Prop where
  distinct : Function.Injective ids
  unmarked : ∀ number, ¬ Endpoint.idMark <+: (ids number).toList

/-- An id that a store has issued. -/
def HasIssued (store : Store) (id : String) : Prop :=
  ∃ number < store.drawn, Endpoint.storeId (store.ids number) = id

/-- The ids of a store are distinct, the store has issued them, and will not do so again. -/
structure IsOrderly (store : Store) : Prop where
  distinct : (store.endpoints.map Endpoint.id).Nodup
  issued : ∀ endpoint ∈ store.endpoints, store.HasIssued endpoint.id
  fresh : Function.Injective store.ids

-----------------------------------------------------------------------------------------
-- Ids that are counted up
-----------------------------------------------------------------------------------------

/-- Numbers as ids: 32 hexadecimal digits, or more where a number needs more. -/
def countedId (number : Nat) : String :=
  let digits := Nat.toDigits 16 number
  String.ofList (List.replicate (32 - digits.length) '0' ++ digits)

/-- The number that a text of hexadecimal digits stands for. -/
def idNumber (text : List Char) : Nat :=
  text.foldl (fun total c => 16 * total + (Text.hexDigit? c).getD 0) 0

/-- The digits of a number stand for it, by induction on the number less its last digit. -/
theorem idNumber_toDigits (number : Nat) : idNumber (Nat.toDigits 16 number) = number := by
  induction number using Nat.strongRecOn with
  | ind number ih =>
      rcases Nat.lt_or_ge number 16 with small | large
      · rw [Nat.toDigits_of_lt_base small]
        simp [idNumber, Json.hexDigit?_digitChar number small]
      · have last := Json.hexDigit?_digitChar (number % 16) (Nat.mod_lt _ (by decide))
        have rest : idNumber (Nat.toDigits 16 (number / 16)) = number / 16 :=
          ih (number / 16) (by omega)
        rw [Nat.toDigits_of_base_le (by decide) large]
        unfold idNumber at rest ⊢
        rw [List.foldl_append, rest]
        simp only [List.foldl_cons, List.foldl_nil, last, Option.getD_some]
        omega

/-- Zeros in front of a text do not change the number that it stands for. -/
theorem idNumber_zeros_append (count : Nat) (text : List Char)
    : idNumber (List.replicate count '0' ++ text) = idNumber text := by
  induction count with
  | zero => rfl
  | succ count ih => exact ih

theorem idNumber_countedId (number : Nat) : idNumber (countedId number).toList = number := by
  rw [countedId, String.toList_ofList, idNumber_zeros_append, idNumber_toDigits]

/-- The digits of a number are hexadecimal digits, by induction on the number less its last digit. -/
theorem isSome_hexDigit?_of_mem_toDigits {number : Nat} {c : Char}
    (member : c ∈ Nat.toDigits 16 number)
    : (Text.hexDigit? c).isSome := by
  induction number using Nat.strongRecOn with
  | ind number ih =>
      rcases Nat.lt_or_ge number 16 with small | large
      · rw [Nat.toDigits_of_lt_base small, List.mem_singleton] at member
        rw [member, Json.hexDigit?_digitChar number small]
        rfl
      · rw [Nat.toDigits_of_base_le (by decide) large, List.mem_append, List.mem_singleton] at member
        rcases member with earlier | rfl
        · exact ih (number / 16) (by omega) earlier
        · rw [Json.hexDigit?_digitChar _ (Nat.mod_lt _ (by decide))]
          rfl

/-- Numbers that are counted up are ids: each stands for one number, and the mark is no number. -/
theorem isIdSupply_countedId : IsIdSupply countedId := by
  constructor
  case distinct =>
    intro number other same
    rw [← idNumber_countedId number, same, idNumber_countedId]
  case unmarked =>
    rintro number ⟨rest, same⟩
    have member : 'r' ∈ (countedId number).toList := by
      rw [← same]
      exact List.mem_cons_self
    rw [countedId, String.toList_ofList] at member
    rcases List.mem_append.mp member with zero | digit
    · cases (List.mem_replicate.mp zero).2
    · cases isSome_hexDigit?_of_mem_toDigits digit

-----------------------------------------------------------------------------------------
-- The forms of ids
-----------------------------------------------------------------------------------------

theorem storeId_injective {id other : String} (same : Endpoint.storeId id = Endpoint.storeId other)
    : id = other := by
  have marked := String.ofList_injective same
  exact String.toList_injective (List.append_cancel_left marked)

theorem idMark_prefix_storeId (text : String)
    : Endpoint.idMark <+: (Endpoint.storeId text).toList := by
  rw [Endpoint.storeId, String.toList_ofList]
  exact List.prefix_append _ _

theorem publicId_storeId (text : String) : Endpoint.publicId (Endpoint.storeId text) = text := by
  rw [Endpoint.publicId, Endpoint.storeId, String.toList_ofList,
    if_pos (List.isPrefixOf_iff_prefix.mpr ⟨_, rfl⟩), List.drop_left, String.ofList_toList]

theorem anyStoreId_storeId (text : String)
    : Endpoint.anyStoreId (Endpoint.storeId text) = Endpoint.storeId text :=
  if_pos (List.isPrefixOf_iff_prefix.mpr (idMark_prefix_storeId text))

/-- A text without the mark is an id without it. -/
theorem anyStoreId_of_unmarked {text : String} (unmarked : ¬ Endpoint.idMark <+: text.toList)
    : Endpoint.anyStoreId text = Endpoint.storeId text :=
  if_neg (mt List.isPrefixOf_iff_prefix.mp unmarked)

variable {store : Store} {new : NewEndpoint} {change : EndpointUpdate} {id : String}

/-- The store's id is found again from the one that clients are told. -/
theorem anyStoreId_publicId (unmarked : ∀ number, ¬ Endpoint.idMark <+: (store.ids number).toList)
    (issued : store.HasIssued id)
    : Endpoint.anyStoreId (Endpoint.publicId id) = id := by
  obtain ⟨number, _, rfl⟩ := issued
  rw [publicId_storeId, anyStoreId_of_unmarked (unmarked number)]

/-- An issued id starts with the store's mark. -/
theorem idMark_prefix_of_hasIssued (issued : store.HasIssued id)
    : Endpoint.idMark <+: id.toList := by
  obtain ⟨number, _, rfl⟩ := issued
  exact idMark_prefix_storeId _

-----------------------------------------------------------------------------------------
-- Ids that are issued
-----------------------------------------------------------------------------------------

/-- The next id is one that was not issued before. -/
theorem not_hasIssued_issue (fresh : Function.Injective store.ids) (new : NewEndpoint)
    : ¬ store.HasIssued (store.issue new).id := by
  rintro ⟨number, before, same⟩
  exact Nat.ne_of_lt before (fresh (storeId_injective same))

theorem hasIssued_added
    : (store.added new).HasIssued id ↔ store.HasIssued id ∨ id = (store.issue new).id := by
  constructor
  · rintro ⟨number, below, rfl⟩
    rcases Nat.lt_succ_iff_lt_or_eq.mp below with before | rfl
    · exact .inl ⟨number, before, rfl⟩
    · exact .inr rfl
  · rintro (⟨number, before, rfl⟩ | rfl)
    · exact ⟨number, Nat.lt_succ_of_lt before, rfl⟩
    · exact ⟨store.drawn, Nat.lt_succ_self _, rfl⟩

-----------------------------------------------------------------------------------------
-- Endpoints by their ids
-----------------------------------------------------------------------------------------

/-- An endpoint is found by its id, and only by that. -/
theorem IsOrderly.found_eq_ok_iff (orderly : store.IsOrderly) {endpoint : Endpoint}
    : store.found id = .ok endpoint ↔ endpoint ∈ store.endpoints ∧ endpoint.id = id := by
  constructor
  · exact mem_of_found
  · rintro ⟨member, named⟩
    cases present : store.found id with
    | ok other =>
        obtain ⟨also, same⟩ := mem_of_found present
        have equal := List.inj_on_of_nodup_map orderly.distinct also member (same.trans named.symm)
        rw [equal]
    | error failure => exact absurd named ((eq_of_not_found present).2 endpoint member)

theorem id_applyIfOn (change : EndpointUpdate) (endpoint : Endpoint)
    : (change.applyIfOn endpoint).id = endpoint.id := by
  unfold EndpointUpdate.applyIfOn
  split
  · rfl
  · rfl

/-- Neither in front of an endpoint nor behind it stands one with its id. -/
theorem IsOrderly.others (orderly : store.IsOrderly) {front behind : List Endpoint}
    {endpoint : Endpoint} (first : store.IsFirst id front endpoint behind)
    : ∀ other ∈ front ++ behind, other.id ≠ id := by
  have distinct := orderly.distinct
  rw [first.endpoints, List.map_append, List.map_cons, List.nodup_middle, List.nodup_cons,
    ← List.map_append] at distinct
  rintro other member rfl
  exact distinct.1 (first.named ▸ List.mem_map_of_mem member)

/-- A change keeps endpoints that have other ids. -/
theorem map_applyIfOn_of_others {endpoints : List Endpoint}
    (others : ∀ endpoint ∈ endpoints, endpoint.id ≠ change.id)
    : endpoints.map change.applyIfOn = endpoints := by
  have kept : ∀ endpoint ∈ endpoints, change.applyIfOn endpoint = endpoint :=
    fun endpoint member => if_neg (others endpoint member)
  rw [List.map_congr_left kept, List.map_id']

/-- A change meets the endpoint with its id and no other. -/
theorem IsOrderly.endpoints_changed (orderly : store.IsOrderly) (change : EndpointUpdate)
    : (store.changed change).endpoints = store.endpoints.map change.applyIfOn := by
  cases present : store.found change.id with
  | ok endpoint =>
      obtain ⟨front, behind, first⟩ := found_eq_ok_iff_isFirst.mp present
      obtain ⟨before, after⟩ := List.forall_mem_append.mp (orderly.others first)
      rw [first.changed, first.endpoints, List.map_append, List.map_cons,
        map_applyIfOn_of_others before, map_applyIfOn_of_others after,
        EndpointUpdate.applyIfOn, if_pos first.named]
  | error failure =>
      rw [changed_of_not_found present, map_applyIfOn_of_others (eq_of_not_found present).2]

/-- A removal takes out the endpoint with its id and no other. -/
theorem IsOrderly.endpoints_without (orderly : store.IsOrderly) (id : String)
    : (store.without id).endpoints = store.endpoints.filter (fun endpoint => endpoint.id ≠ id) := by
  cases present : store.found id with
  | ok endpoint =>
      obtain ⟨front, behind, first⟩ := found_eq_ok_iff_isFirst.mp present
      have others := orderly.others first
      rw [first.without, first.endpoints, List.filter_append,
        List.filter_cons_of_neg (by simpa using first.named), ← List.filter_append,
        List.filter_eq_self.mpr (by simpa using others)]
  | error failure =>
      have absent := (eq_of_not_found present).2
      rw [without_of_not_found present, List.filter_eq_self.mpr (by simpa using absent)]

-----------------------------------------------------------------------------------------
-- What is done to a store
-----------------------------------------------------------------------------------------

theorem hasIssued_changed
    : (store.changed change).HasIssued id ↔ store.HasIssued id := by
  unfold changed
  split
  · exact .rfl
  · exact .rfl

theorem firstPageSize_changed (store : Store) (change : EndpointUpdate)
    : (store.changed change).firstPageSize = store.firstPageSize := by
  unfold changed
  split
  · rfl
  · rfl

theorem supply_changed (store : Store) (change : EndpointUpdate)
    : (store.changed change).ids = store.ids := by
  unfold changed
  split
  · rfl
  · rfl

theorem isOrderly_empty (firstPageSize : UInt64) {ids : Nat → String}
    (fresh : Function.Injective ids)
    : (empty firstPageSize ids).IsOrderly :=
  ⟨List.nodup_nil, fun _ none => (nomatch none), fresh⟩

theorem IsOrderly.added (orderly : store.IsOrderly) (new : NewEndpoint)
    : (store.added new).IsOrderly := by
  constructor
  case distinct =>
    change ((store.endpoints ++ [store.issue new]).map Endpoint.id).Nodup
    rw [List.map_append, List.nodup_append]
    refine ⟨orderly.distinct, List.nodup_singleton _, ?_⟩
    rintro id member other issued rfl
    obtain ⟨endpoint, stored, rfl⟩ := List.mem_map.mp member
    apply not_hasIssued_issue orderly.fresh new
    rw [← List.mem_singleton.mp issued]
    exact orderly.issued endpoint stored
  case issued =>
    intro endpoint member
    rcases List.mem_append.mp member with kept | last
    · exact hasIssued_added.mpr (.inl (orderly.issued endpoint kept))
    · rw [List.mem_singleton.mp last]
      exact hasIssued_added.mpr (.inr rfl)
  case fresh => exact orderly.fresh

theorem IsOrderly.changed (orderly : store.IsOrderly) (change : EndpointUpdate)
    : (store.changed change).IsOrderly := by
  have ids := ids_changed store change
  constructor
  case distinct => exact ids ▸ orderly.distinct
  case issued =>
    intro endpoint member
    rw [hasIssued_changed]
    have stored : endpoint.id ∈ store.endpoints.map Endpoint.id :=
      ids ▸ List.mem_map_of_mem member
    obtain ⟨old, kept, same⟩ := List.mem_map.mp stored
    exact same ▸ orderly.issued old kept
  case fresh => exact supply_changed store change ▸ orderly.fresh

theorem IsOrderly.without (orderly : store.IsOrderly) (id : String)
    : (store.without id).IsOrderly := by
  constructor
  case distinct =>
    rw [orderly.endpoints_without]
    exact orderly.distinct.sublist (List.filter_sublist.map _)
  case issued =>
    intro endpoint member
    exact orderly.issued endpoint (List.mem_of_mem_eraseP member)
  case fresh => exact orderly.fresh

-----------------------------------------------------------------------------------------
-- Finding an endpoint after something was done
-----------------------------------------------------------------------------------------

/-- A new endpoint is found under its id, and the others as before. -/
theorem IsOrderly.found_added (orderly : store.IsOrderly) (new : NewEndpoint) (id : String)
    : (store.added new).found id
      = if id = (store.issue new).id then .ok (store.issue new) else store.found id := by
  split
  · next same =>
      subst same
      apply (orderly.added new).found_eq_ok_iff.mpr
      exact ⟨List.mem_append_right _ List.mem_cons_self, rfl⟩
  · next differ =>
      unfold found Store.added
      dsimp only
      rw [List.find?_append, List.find?_cons_of_neg (by simpa using Ne.symm differ),
        List.find?_nil, Option.or_none]

/-- A new endpoint is found under the id that clients are told. -/
theorem IsOrderly.found_issue (orderly : store.IsOrderly)
    (unmarked : ∀ number, ¬ Endpoint.idMark <+: (store.ids number).toList) (new : NewEndpoint)
    : (store.added new).found (Endpoint.anyStoreId (store.issue new).forClients.id)
      = .ok (store.issue new) := by
  have issued : (store.added new).HasIssued (store.issue new).id := hasIssued_added.mpr (.inr rfl)
  have supply : ∀ number, ¬ Endpoint.idMark <+: ((store.added new).ids number).toList := unmarked
  rw [Endpoint.forClients, anyStoreId_publicId supply issued, orderly.found_added, if_pos rfl]

/-- A changed endpoint is found as it is after the change, and the others as before. -/
theorem IsOrderly.found_changed (orderly : store.IsOrderly) (change : EndpointUpdate) (id : String)
    : (store.changed change).found id
      = if id = change.id then (store.found id).map change.apply else store.found id := by
  have ids : (fun endpoint => decide (endpoint.id = id)) ∘ change.applyIfOn
      = fun endpoint : Endpoint => decide (endpoint.id = id) := by
    funext endpoint
    rw [Function.comp_apply, id_applyIfOn]
  unfold found
  rw [orderly.endpoints_changed, List.find?_map, ids]
  cases searched : store.endpoints.find? (fun endpoint => endpoint.id = id) with
  | none => exact (ite_self _).symm
  | some endpoint =>
      have holds := List.find?_some searched
      have named : endpoint.id = id := of_decide_eq_true holds
      rw [Option.map_some, EndpointUpdate.applyIfOn, named]
      by_cases met : id = change.id
      · rw [if_pos met, if_pos met]
        rfl
      · rw [if_neg met, if_neg met]

/-- An endpoint that was taken out is not found, and the others are found as before. -/
theorem IsOrderly.found_without (orderly : store.IsOrderly) (id other : String)
    : (store.without id).found other
      = if other = id then .error ⟨.notFound, id⟩ else store.found other := by
  split
  · next same =>
      subst same
      apply found_eq_error
      rw [orderly.endpoints_without]
      exact fun endpoint member => of_decide_eq_true (List.mem_filter.mp member).2
  · next differ =>
      unfold found
      rw [orderly.endpoints_without, List.find?_filter]
      congr 2
      funext endpoint
      by_cases named : endpoint.id = other
      · simp [named, differ]
      · simp [named]

end Store

end RecordQuery
