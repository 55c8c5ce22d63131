import RecordQuery.Path.Basic

/-! Fields of objects: putting a field in and looking one up, following names through objects, and
going through the values inside a value.
-/

namespace RecordQuery.Json

/-- The field that was put in has its value, and the others keep theirs. -/
theorem field?_setField (name other : String) (value : Json) (fields : List Field)
    : field? other (setField name value fields)
      = if name = other then some value else field? other fields := by
  induction fields with
  | nil => rfl
  | cons field rest ih =>
      obtain ⟨key, old⟩ := field
      by_cases same : key = name
      · simp only [setField, same, ↓reduceIte, field?]
        split
        · rfl
        · rfl
      · simp only [setField, same, ↓reduceIte, field?, ih]
        by_cases found : key = other
        · have differ : name ≠ other := fun equal => same (found.trans equal.symm)
          simp [found, differ]
        · simp [found]

@[simp]
theorem field?_setField_self (name : String) (value : Json) (fields : List Field)
    : field? name (setField name value fields) = some value := by
  rw [field?_setField, if_pos rfl]

theorem field?_setField_of_ne {name other : String} (h : name ≠ other) (value : Json)
    (fields : List Field)
    : field? other (setField name value fields) = field? other fields := by
  rw [field?_setField, if_neg h]

/-- Putting in the value that a field has changes nothing. -/
theorem setField_of_field? {name : String} {value : Json} {fields : List Field}
    (h : field? name fields = some value)
    : setField name value fields = fields := by
  induction fields with
  | nil => cases h
  | cons field rest ih =>
      obtain ⟨key, old⟩ := field
      by_cases same : key = name
      · simp only [field?, same, ↓reduceIte, Option.some.injEq] at h
        simp only [setField, same, ↓reduceIte, h]
      · simp only [field?, same, ↓reduceIte] at h
        simp only [setField, same, ↓reduceIte, ih h]

/-- A field under a new name is put in behind the others. -/
theorem setField_of_field?_eq_none {name : String} {value : Json} {fields : List Field}
    (new : field? name fields = none)
    : setField name value fields = fields ++ [(name, value)] := by
  induction fields with
  | nil => rfl
  | cons field rest ih =>
      obtain ⟨key, old⟩ := field
      by_cases same : key = name
      · simp [field?, same] at new
      · simp only [field?, same, ↓reduceIte] at new
        simp only [setField, same, ↓reduceIte, ih new, List.cons_append]

/-- Putting a field in keeps the names distinct. -/
theorem nodup_setField {fields : List Field} (distinct : (fields.map Prod.fst).Nodup) (name : String)
    (value : Json)
    : ((setField name value fields).map Prod.fst).Nodup := by
  have names : (setField name value fields).map Prod.fst
      = if name ∈ fields.map Prod.fst then fields.map Prod.fst
        else fields.map Prod.fst ++ [name] := by
    clear distinct
    induction fields with
    | nil => rfl
    | cons field rest ih =>
        obtain ⟨key, old⟩ := field
        by_cases same : key = name
        · simp [setField, same]
        · simp only [setField, same, ↓reduceIte, List.map_cons, ih, List.mem_cons, Ne.symm same,
            false_or]
          split <;> rfl
  rw [names]
  split
  · exact distinct
  · next new =>
      refine List.nodup_append.mpr ⟨distinct, List.pairwise_singleton _ _, ?_⟩
      rintro key member other last rfl
      exact new (List.mem_singleton.mp last ▸ member)

theorem mem_setField {name : String} {value : Json} {fields : List Field} {field : Field}
    (member : field ∈ setField name value fields)
    : field = (name, value) ∨ field ∈ fields := by
  induction fields with
  | nil => exact .inl (List.mem_singleton.mp member)
  | cons first rest ih =>
      obtain ⟨key, old⟩ := first
      rw [setField] at member
      split at member
      · next same =>
          rcases List.mem_cons.mp member with rfl | later
          · exact .inl (by rw [same])
          · exact .inr (List.mem_cons_of_mem _ later)
      · rcases List.mem_cons.mp member with rfl | later
        · exact .inr List.mem_cons_self
        · exact (ih later).imp_right (List.mem_cons_of_mem _)

/-- The fields are some of the entries, with distinct names, by induction on the entries. -/
theorem fieldsOf_spec (entries : List Field)
    : (∀ field ∈ fieldsOf entries, field ∈ entries)
      ∧ ((fieldsOf entries).map Prod.fst).Nodup := by
  have joined (rest fields : List Field) (names : (fields.map Prod.fst).Nodup)
      : let all := rest.foldl (fun fields entry => setField entry.1 entry.2 fields) fields
        (∀ field ∈ all, field ∈ fields ∨ field ∈ rest) ∧ (all.map Prod.fst).Nodup := by
    induction rest generalizing fields with
    | nil => exact ⟨fun field member => .inl member, names⟩
    | cons entry rest ih =>
        obtain ⟨from', distinct⟩ := ih _ (nodup_setField names entry.1 entry.2)
        refine ⟨fun field member => ?_, distinct⟩
        rcases from' field member with put | later
        · rcases mem_setField put with rfl | old
          · exact .inr List.mem_cons_self
          · exact .inl old
        · exact .inr (List.mem_cons_of_mem _ later)
  obtain ⟨members, names⟩ := joined entries [] List.nodup_nil
  exact ⟨fun field member => (members field member).resolve_left List.not_mem_nil, names⟩

/-- A value that is looked up is the value of a field. -/
theorem mem_of_field? {name : String} {value : Json} {fields : List Field}
    (h : field? name fields = some value)
    : (name, value) ∈ fields := by
  induction fields with
  | nil => cases h
  | cons field rest ih =>
      obtain ⟨key, old⟩ := field
      rw [field?] at h
      split at h
      · next same =>
          cases h
          rw [same]
          exact List.mem_cons_self
      · exact List.mem_cons_of_mem _ (ih h)

/-- The value of a field is looked up where no two fields have one name. -/
theorem field?_eq_some_iff {name : String} {value : Json} {fields : List Field}
    (distinct : (fields.map Prod.fst).Nodup)
    : field? name fields = some value ↔ (name, value) ∈ fields := by
  refine ⟨mem_of_field?, fun member => ?_⟩
  induction fields with
  | nil => cases member
  | cons field rest ih =>
      obtain ⟨key, old⟩ := field
      rw [List.map_cons, List.nodup_cons] at distinct
      rcases List.mem_cons.mp member with same | later
      · obtain ⟨rfl, rfl⟩ := Prod.mk.inj same
        exact if_pos rfl
      · have other : key ≠ name := by
          rintro rfl
          exact distinct.1 (List.mem_map.mpr ⟨_, later, rfl⟩)
        exact (if_neg other).trans (ih distinct.2 later)

theorem field?_append (name : String) (fields more : List Field)
    : field? name (fields ++ more) = (field? name fields).or (field? name more) := by
  induction fields with
  | nil => rfl
  | cons field rest ih =>
      obtain ⟨key, value⟩ := field
      rw [List.cons_append, field?, field?, ih]
      split <;> rfl

/-- A name is found exactly where a field has it. -/
theorem isSome_field?_iff {name : String} {fields : List Field}
    : (field? name fields).isSome ↔ name ∈ fields.map Prod.fst := by
  induction fields with
  | nil => simp [field?]
  | cons field rest ih =>
      obtain ⟨key, value⟩ := field
      rw [field?, List.map_cons, List.mem_cons]
      split
      · next same => simp [same]
      · next other => simp [ih, Ne.symm other]

/-- A name that is not there is not found. -/
theorem field?_eq_none_iff {name : String} {fields : List Field}
    : field? name fields = none ↔ name ∉ fields.map Prod.fst := by
  rw [← isSome_field?_iff, Bool.not_eq_true, Option.isSome_eq_false_iff, Option.isNone_iff_eq_none]

/-- Where the values are given by the names, each name has its value. -/
theorem field?_map (valueOf : String → Json) (name : String) (names : List String)
    : field? name (names.map (fun name => (name, valueOf name)))
      = if name ∈ names then some (valueOf name) else none := by
  induction names with
  | nil => rfl
  | cons first rest ih =>
      rw [List.map_cons, field?, ih]
      by_cases same : first = name
      · subst same
        rw [if_pos rfl, if_pos List.mem_cons_self]
      · simp [same, Ne.symm same]

/-- Without an item whose place the last one takes, the others are left. -/
theorem dropLast_set_perm {items : List α} {place : Nat} {last : α} (bound : place < items.length)
    (ends : items.getLast? = some last)
    : (items.set place last).dropLast.Perm (items.eraseIdx place) := by
  obtain ⟨front, rfl⟩ := List.getLast?_eq_some_iff.mp ends
  rcases Nat.lt_or_ge place front.length with inner | outer
  · rw [List.set_append, if_pos inner, List.dropLast_concat, List.eraseIdx_append, if_pos inner,
      List.set_eq_take_append_cons_drop, if_pos inner, List.eraseIdx_eq_take_drop_succ,
      List.append_assoc]
    have swapped : ([last] ++ front.drop (place + 1)).Perm (front.drop (place + 1) ++ [last]) :=
      List.perm_append_comm
    exact swapped.append_left _
  · obtain rfl : place = front.length := by
      rw [List.length_append, List.length_singleton] at bound
      omega
    simp [List.eraseIdx_append]

/-- Taking a field out leaves the others, in whatever order. -/
theorem removeField_perm (name : String) (fields : List Field)
    : (removeField name fields).Perm (fields.eraseP (fun field => field.1 = name)) := by
  rw [removeField, List.eraseP_eq_eraseIdx]
  cases placed : fields.findIdx? (fun field => field.1 = name) with
  | none => exact .rfl
  | some place =>
      obtain ⟨bound, _⟩ := List.findIdx?_eq_some_iff_getElem.mp placed
      cases ends : fields.getLast? with
      | none =>
          rw [List.getLast?_eq_none_iff.mp ends] at bound
          cases bound
      | some last => exact dropLast_set_perm bound ends

theorem nodup_removeField {fields : List Field} (distinct : (fields.map Prod.fst).Nodup)
    (name : String)
    : ((removeField name fields).map Prod.fst).Nodup := by
  rw [((removeField_perm name fields).map Prod.fst).nodup_iff]
  exact distinct.sublist (List.eraseP_sublist.map _)

/-- Where no two fields have one name, the others are looked up as before. -/
theorem field?_removeField_of_ne {name other : String} {fields : List Field}
    (distinct : (fields.map Prod.fst).Nodup) (differ : other ≠ name)
    : field? other (removeField name fields) = field? other fields := by
  apply Option.ext
  intro value
  rw [field?_eq_some_iff (nodup_removeField distinct name), field?_eq_some_iff distinct,
    (removeField_perm name fields).mem_iff, List.mem_eraseP_of_neg (by simpa using differ)]

/-- The value of a field is smaller than the object. -/
theorem sizeOf_lt_of_mem_fields {fields : List Field} {field : Field} (member : field ∈ fields)
    : sizeOf field.2 < sizeOf (object fields) := by
  obtain ⟨name, value⟩ := field
  have smaller := List.sizeOf_lt_of_mem member
  simp only [Prod.mk.sizeOf_spec, object.sizeOf_spec] at smaller ⊢
  omega

/-- What holds of the values without parts, and of an array or an object if it does of the values in
it, holds of all values.
-/
@[elab_as_elim]
theorem inductionOn {motive : Json → Prop} (value : Json) (null : motive .null)
    (bool : ∀ truth, motive (.bool truth)) (number : ∀ n, motive (.number n))
    (string : ∀ s, motive (.string s))
    (array : ∀ items, (∀ item ∈ items, motive item) → motive (.array items))
    (object : ∀ fields, (∀ field ∈ fields, motive field.2) → motive (.object fields))
    : motive value := by
  match value with
  | .null => exact null
  | .bool truth => exact bool truth
  | .number n => exact number n
  | .string s => exact string s
  | .array items =>
      refine array items fun item member => ?_
      exact inductionOn item null bool number string array object
  | .object fields =>
      refine object fields fun field member => ?_
      exact inductionOn field.2 null bool number string array object
termination_by sizeOf value
decreasing_by
  · have smaller := List.sizeOf_lt_of_mem member
    rw [Json.array.sizeOf_spec]
    omega
  · exact sizeOf_lt_of_mem_fields member

theorem itemsHaveDistinctKeys_iff {items : List Json}
    : ItemsHaveDistinctKeys items ↔ ∀ item ∈ items, item.HasDistinctKeys := by
  induction items with
  | nil => simp [ItemsHaveDistinctKeys]
  | cons item rest ih => simp [ItemsHaveDistinctKeys, ih]

theorem fieldsHaveDistinctKeys_iff {fields : List Field}
    : FieldsHaveDistinctKeys fields ↔ ∀ field ∈ fields, field.2.HasDistinctKeys := by
  induction fields with
  | nil => simp [FieldsHaveDistinctKeys]
  | cons field rest ih => rw [FieldsHaveDistinctKeys, ih, List.forall_mem_cons]

@[simp]
theorem follow?_nil (value : Json) : value.follow? [] = some value := rfl

theorem follow?_cons (value : Json) (name : String) (rest : List String)
    : value.follow? (name :: rest) = (value.child? name).bind (·.follow? rest) := rfl

@[simp]
theorem follow?_object (fields : List Field) (name : String) (rest : List String)
    : (object fields).follow? (name :: rest) = (field? name fields).bind (·.follow? rest) := rfl

/-- Following names goes on from where the first ones lead. -/
theorem follow?_append (value : Json) (names more : List String)
    : value.follow? (names ++ more) = (value.follow? names).bind (·.follow? more) := by
  induction names generalizing value with
  | nil => rfl
  | cons name rest ih =>
      rw [List.cons_append, follow?_cons, follow?_cons]
      cases value.child? name with
      | none => rfl
      | some child => exact ih child

/-- Names that lead somewhere lead somewhere on the way. -/
theorem isSome_follow?_of_prefix {value : Json} {names more : List String}
    (before : names <+: more) (reached : (value.follow? more).isSome)
    : (value.follow? names).isSome := by
  obtain ⟨rest, rfl⟩ := before
  rw [follow?_append] at reached
  exact Option.isSome_of_isSome_bind reached

end RecordQuery.Json
