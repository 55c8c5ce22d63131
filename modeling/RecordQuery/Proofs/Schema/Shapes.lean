import Mathlib.Data.List.Induction
import RecordQuery.Proofs.Schema.Samples

/-! What a shape holds once the values of a sample were observed: their kinds, every property with
the number of objects that have it and the shape of its values there, and the shape of the items of
arrays. So the schema of the shape tells of the sample what its values are, at every position.
-/

namespace RecordQuery.Schema

namespace Shape

/-- The shape of some values. -/
def ofSample (values : List Json) : Shape :=
  observeAll values .empty

/-- The properties of some names, each with the values that objects have under it. -/
def table (names : List String) (values : String → List Json) : List Property :=
  names.map (fun name => (name, (values name).length, ofSample (values name)))

variable {names : List String} {values values' : String → List Json} {name : String} {value : Json}

-----------------------------------------------------------------------------------------
-- Observing one value after the other
-----------------------------------------------------------------------------------------

theorem observeAll_append (first rest : List Json) (shape : Shape)
    : observeAll (first ++ rest) shape = observeAll rest (observeAll first shape) := by
  induction first generalizing shape with
  | nil => rfl
  | cons value first ih =>
      rw [List.cons_append, observeAll, observeAll]
      exact ih _

theorem observeAll_ofSample (first rest : List Json)
    : observeAll rest (ofSample first) = ofSample (first ++ rest) :=
  (observeAll_append first rest .empty).symm

theorem observe_ofSample (first : List Json) (value : Json)
    : observe value (ofSample first) = ofSample (first ++ [value]) := by
  rw [← observeAll_ofSample, observeAll, observeAll]

-----------------------------------------------------------------------------------------
-- Properties
-----------------------------------------------------------------------------------------

theorem table_congr (same : ∀ name ∈ names, values name = values' name)
    : table names values = table names values' :=
  List.map_congr_left fun name member => by rw [same name member]

/-- One more object has a value under a name. -/
theorem countProperty_table (distinct : names.Nodup)
    (here : values' name = values name ++ [value])
    (others : ∀ other, other ≠ name → values' other = values other)
    (unseen : name ∉ names → values name = [])
    : countProperty name (observe value) (table names values)
      = table (if name ∈ names then names else names ++ [name]) values' := by
  induction names with
  | nil =>
      have only : values' name = [value] := by
        rw [here, unseen List.not_mem_nil]
        rfl
      simp [table, countProperty, only, ofSample, observeAll]
  | cons first rest ih =>
      obtain ⟨new, distinct⟩ := List.nodup_cons.mp distinct
      by_cases same : first = name
      · subst same
        have kept : table rest values = table rest values' :=
          table_congr fun other member => (others other (fun same => new (same ▸ member))).symm
        rw [if_pos List.mem_cons_self, table, table, List.map_cons, List.map_cons, ← table, ← table,
          countProperty, if_pos rfl, kept, here, observe_ofSample, List.length_append]
        rfl
      · have kept : values' first = values first := others first same
        have later := ih distinct fun absent => unseen fun member =>
          absent ((List.mem_cons.mp member).resolve_left (Ne.symm same))
        rw [table, List.map_cons, ← table, countProperty, if_neg same, later, ← kept]
        by_cases member : name ∈ rest
        · simp [table, member]
        · simp [table, member, Ne.symm same]

/-- One more value under a name, which is put behind the names that were seen unless it is one. -/
theorem countProperty_firstOccurrences {seen : List String} (name : String) (value : Json)
    (unseen : ∀ name, name ∉ seen → values name = [])
    : countProperty name (observe value) (table (Text.firstOccurrences seen) values)
      = table (Text.firstOccurrences (seen ++ [name]))
          (Function.update values name (values name ++ [value])) := by
  rw [countProperty_table (Text.nodup_firstOccurrences seen) (Function.update_self ..)
    (fun other differ => Function.update_of_ne differ ..)
    (fun absent => unseen name (mt Text.mem_firstOccurrences.mpr absent))]
  simp only [Text.mem_firstOccurrences, Text.firstOccurrences_concat]

/-- One more object has some fields, by induction on those that are still to be seen. A name that
occurs among them again has its first value.
-/
theorem observeFields_table (fields : List Json.Field) {before seen : List String}
    (listed : ∀ name ∈ before, name ∈ seen) (unseen : ∀ name, name ∉ seen → values name = [])
    (after : ∀ name, values' name
      = values name ++ if name ∈ before then [] else (Json.field? name fields).toList)
    : observeFields before fields (table (Text.firstOccurrences seen) values)
      = table (Text.firstOccurrences (seen ++ fields.map Prod.fst)) values' := by
  induction fields generalizing before seen values with
  | nil =>
      rw [observeFields, List.map_nil, List.append_nil]
      refine table_congr fun name _ => ?_
      rw [after name]
      simp [Json.field?]
  | cons field rest ih =>
      obtain ⟨name, value⟩ := field
      rw [observeFields, List.map_cons, List.append_cons]
      split
      · next again =>
          have same : Text.firstOccurrences (seen ++ [name]) = Text.firstOccurrences seen := by
            rw [Text.firstOccurrences_concat, if_pos (listed name again)]
          rw [← same]
          refine ih (fun other member => List.mem_append_left _ (listed other member))
            (fun other absent => unseen other fun member => absent (List.mem_append_left _ member))
            fun other => ?_
          rw [after other]
          congr 1
          split
          · rfl
          · next absent =>
              have differ : name ≠ other := fun same => absent (same ▸ again)
              rw [Json.field?, if_neg differ]
      · next first =>
          rw [countProperty_firstOccurrences name value unseen]
          refine ih (fun other member => ?_) (fun other absent => ?_) fun other => ?_
          · rcases List.mem_cons.mp member with rfl | member
            · exact List.mem_append_right _ List.mem_cons_self
            · exact List.mem_append_left _ (listed other member)
          · obtain ⟨absent, differ⟩ := not_or.mp (mt List.mem_append.mpr absent)
            rw [Function.update_of_ne (mt List.mem_singleton.mpr differ)]
            exact unseen other absent
          · rw [after other, Json.field?]
            by_cases same : name = other
            · subst same
              simp [first]
            · simp [same, Ne.symm same]

-----------------------------------------------------------------------------------------
-- Shapes of samples
-----------------------------------------------------------------------------------------

theorem withKind_kinds (sample : List Json) (kind : Json.Kind) (properties : List Property)
    (objects : Nat) (items : Option Shape)
    : withKind ⟨Text.firstOccurrences (sample.map Json.kind), properties, objects, items⟩ kind
      = ⟨Text.firstOccurrences (sample.map Json.kind ++ [kind]), properties, objects, items⟩ := by
  rw [Text.firstOccurrences_concat, withKind]
  simp only [Text.mem_firstOccurrences]
  split <;> rfl

/-- One more object is one more for each property that it has. -/
theorem observeFields_propertyNames (objects : List (List Json.Field)) (fields : List Json.Field)
    : observeFields [] fields
        (table (propertyNames objects) (fun name => propertyValues name objects))
      = table (propertyNames (objects ++ [fields]))
          (fun name => propertyValues name (objects ++ [fields])) := by
  have names : propertyNames (objects ++ [fields])
      = Text.firstOccurrences
          (objects.flatMap (fun fields => fields.map Prod.fst) ++ fields.map Prod.fst) := by
    rw [propertyNames, List.flatMap_append, List.flatMap_singleton]
  rw [names]
  refine observeFields_table fields nofun (fun name absent => ?_) fun name => ?_
  · refine List.filterMap_eq_nil_iff.mpr fun fields member => ?_
    refine Option.not_isSome_iff_eq_none.mp fun found => absent ?_
    exact List.mem_flatMap.mpr ⟨fields, member, Json.isSome_field?_iff.mp found⟩
  · cases found : Json.field? name fields <;> simp [propertyValues, found]

/-- The shape of a sample holds what its values are, by induction from the last one. -/
theorem ofSample_eq (sample : List Json)
    : ofSample sample
      = ⟨Schema.kinds sample,
          table (propertyNames (Schema.objects sample))
            (fun name => propertyValues name (Schema.objects sample)),
          (Schema.objects sample).length,
          if (arrays sample).isEmpty then none else some (ofSample (arrays sample).flatten)⟩ := by
  induction sample using List.reverseRecOn with
  | nil => rfl
  | append_singleton sample value ih =>
      have kinds : Schema.kinds (sample ++ [value])
          = Text.firstOccurrences (sample.map Json.kind ++ [value.kind]) := by
        rw [Schema.kinds, List.map_append]
        rfl
      rw [← observe_ofSample, ih, kinds]
      cases value with
      | object fields =>
          have objects : Schema.objects (sample ++ [.object fields])
              = Schema.objects sample ++ [fields] := by
            simp [Schema.objects]
          have arrays : Schema.arrays (sample ++ [.object fields]) = Schema.arrays sample := by
            simp [Schema.arrays]
          rw [observe, Schema.kinds, withKind_kinds, objects, arrays, List.length_append,
            ← observeFields_propertyNames]
          rfl
      | array items =>
          have objects : Schema.objects (sample ++ [.array items]) = Schema.objects sample := by
            simp [Schema.objects]
          have arrays : Schema.arrays (sample ++ [.array items])
              = Schema.arrays sample ++ [items] := by
            simp [Schema.arrays]
          have inside : observeAll items ((if (Schema.arrays sample).isEmpty then none
              else some (ofSample (Schema.arrays sample).flatten)).getD .empty)
              = ofSample (Schema.arrays sample ++ [items]).flatten := by
            rw [List.flatten_concat, ← observeAll_ofSample]
            split
            · next none =>
                rw [List.isEmpty_iff.mp none]
                rfl
            · rfl
          have some : (Schema.arrays sample ++ [items]).isEmpty = false := by simp
          rw [observe, Schema.kinds, withKind_kinds, objects, arrays, some]
          dsimp only
          rw [inside]
          rfl
      | null | bool _ | number _ | string _ =>
          refine (withKind_kinds sample _ _ _ _).trans ?_
          simp [Schema.objects, Schema.arrays]

-----------------------------------------------------------------------------------------
-- Schemas of samples
-----------------------------------------------------------------------------------------

theorem kindFields_kinds (sample : List Json) : kindFields (Schema.kinds sample) = typeFields sample :=
  rfl

theorem propertySchemas_table (names : List String) (values : String → List Json)
    : propertySchemas (table names values)
      = names.map (fun name => (name, (ofSample (values name)).toSchema)) := by
  induction names with
  | nil => rfl
  | cons name rest ih =>
      rw [table, List.map_cons, ← table, propertySchemas, ih]
      rfl

theorem requiredNames_table (objects : List (List Json.Field))
    : Shape.requiredNames objects.length
        (table (propertyNames objects) (fun name => propertyValues name objects))
      = Schema.requiredNames objects := by
  rw [Shape.requiredNames, table, List.filter_map, List.map_map]
  exact List.map_id _

/-- What a shape tells of objects is what is told of those in the sample. -/
theorem objectFields_table {describe : List Json → Json} (objects : List (List Json.Field))
    (inside : ∀ name, (ofSample (propertyValues name objects)).toSchema
      = describe (propertyValues name objects))
    : (if objects.length = 0 then []
        else
          ("properties", .object (propertySchemas (table (propertyNames objects)
            (fun name => propertyValues name objects))))
            :: requiredFields (Shape.requiredNames objects.length (table (propertyNames objects)
              (fun name => propertyValues name objects))))
      = objectFields describe objects := by
  rw [propertySchemas_table, requiredNames_table]
  unfold objectFields
  simp only [inside, List.length_eq_zero_iff, List.isEmpty_iff, requiredFields]

/-- The schema of the shape of a sample tells what its values are, by induction on the levels that
are told of.
-/
theorem toSchema_ofSample {sample : List Json} {levels : Nat}
    (fits : Json.nestingOfItems sample ≤ levels)
    : (ofSample sample).toSchema = describeTo levels sample := by
  induction levels using Nat.strongRecOn generalizing sample with
  | ind levels ih =>
      have inside (inner : List Json) (below : ∀ value ∈ inner, value.nesting < levels)
          : (ofSample inner).toSchema = describeTo (levels - 1) inner := by
        cases levels with
        | zero =>
            obtain rfl := List.eq_nil_iff_forall_not_mem.mpr fun value member =>
              Nat.not_lt_zero _ (below value member)
            rfl
        | succ levels =>
            refine ih levels (Nat.lt_succ_self levels) (Json.nestingOfItems_le_iff.mpr ?_)
            exact fun value member => Nat.le_of_lt_succ (below value member)
      have items : itemFields (if (arrays sample).isEmpty then none
          else some (ofSample (arrays sample).flatten))
          = arrayFields (describeTo (levels - 1)) (arrays sample) := by
        unfold arrayFields
        split
        · rfl
        · rw [itemFields, inside _ fun value member => nesting_items_lt fits member]
      rw [describeTo, fieldsTo_eq fits, ofSample_eq, toSchema, kindFields_kinds, items,
        objectFields_table (Schema.objects sample) fun name =>
          inside _ fun value member => nesting_propertyValues_lt fits member]

end Shape

/-- The schema of a sample tells, under a title, what its values are. -/
theorem infer_eq (title : String) (sample : List Json)
    : infer title sample
      = .object
        [
          ("$schema", .string dialect), ("title", .string (title ++ " Set")),
          ("type", .string "array"),
          ("items", .object (fields sample ++ [("title", .string title)]))
        ] := by
  have schema : (Shape.observeAll sample .empty).toSchema = .object (fields sample) :=
    Shape.toSchema_ofSample (Nat.le_refl _)
  have new : Json.field? "title" (fields sample) = none := field?_title_fieldsTo _ sample
  rw [infer, schema, titled, Json.setField_of_field?_eq_none new]

end RecordQuery.Schema
