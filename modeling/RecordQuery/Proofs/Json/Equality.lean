import Mathlib.Data.List.Forall2
import RecordQuery.Proofs.Json.Fields

/-! Equality of values as it is in the exchange of values: the order of the fields of an object does
not count, nor does the sign of zero, but an integer is no double. It is one of the relations that
see the texts, the items and the fields of a value; identity is another.
-/

namespace RecordQuery.Json

mutual
/-- Equality of two values, kind by kind. Objects are equal that have as many fields, where each
field of the one has an equal field in the other.
-/
inductive IsEqualTo : Json → Json → Prop where
  | null : IsEqualTo .null .null
  | bool (truth : Bool) : IsEqualTo (.bool truth) (.bool truth)
  | int (n : Int) (inRange : Number.InRange n)
    : IsEqualTo (.number (.int n inRange)) (.number (.int n inRange))
  | double {x y : Binary64} (same : x.compare y = .eq)
    : IsEqualTo (.number (.double x)) (.number (.double y))
  | string (s : String) : IsEqualTo (.string s) (.string s)
  | array {items others : List Json} (inside : ItemsAreEqualTo items others)
    : IsEqualTo (.array items) (.array others)
  | object {fields others : List Field} (length : fields.length = others.length)
      (inside : FieldsAreIn fields others)
    : IsEqualTo (.object fields) (.object others)

/-- `IsEqualTo`, item by item. -/
inductive ItemsAreEqualTo : List Json → List Json → Prop where
  | nil : ItemsAreEqualTo [] []
  | cons {item other : Json} {items others : List Json} (first : IsEqualTo item other)
      (more : ItemsAreEqualTo items others)
    : ItemsAreEqualTo (item :: items) (other :: others)

/-- Each field has a field of its name among the others, with an equal value. -/
inductive FieldsAreIn : List Field → List Field → Prop where
  | nil (others : List Field) : FieldsAreIn [] others
  | cons {name : String} {value other : Json} {fields others : List Field}
      (found : field? name others = some other) (first : IsEqualTo value other)
      (more : FieldsAreIn fields others)
    : FieldsAreIn ((name, value) :: fields) others
end

/-- A relation of values that sees texts, the items of arrays and the fields of objects: objects
that are related have related fields, and objects of the same distinct names with related fields are
related.
-/
structure SeesInside (R : Json → Json → Prop) : Prop where
  string : ∀ {s t}, R (.string s) (.string t) ↔ s = t
  array : ∀ {items others}, R (.array items) (.array others) ↔ List.Forall₂ R items others
  field : ∀ {fields others name value}, R (.object fields) (.object others)
    → field? name fields = some value → ∃ other, field? name others = some other ∧ R value other
  object : ∀ {fields others : List Field}, (others.map Prod.fst).Nodup
    → List.Forall₂ (fun field other => field.1 = other.1 ∧ R field.2 other.2) fields others
    → R (.object fields) (.object others)

-----------------------------------------------------------------------------------------
-- Identity
-----------------------------------------------------------------------------------------

theorem seesInside_eq : SeesInside Eq := by
  constructor
  case string => simp
  case array => simp [List.forall₂_eq_eq_eq]
  case field =>
    rintro fields _ name value ⟨⟩ found
    exact ⟨value, found, rfl⟩
  case object =>
    intro fields others _ inside
    have same : List.Forall₂ (· = ·) fields others :=
      inside.imp fun field other equal => Prod.ext equal.1 equal.2
    rw [List.forall₂_eq_eq_eq] at same
    rw [same]

-----------------------------------------------------------------------------------------
-- Equality
-----------------------------------------------------------------------------------------

theorem itemsAreEqualTo_iff {items others : List Json}
    : ItemsAreEqualTo items others ↔ List.Forall₂ IsEqualTo items others := by
  constructor
  · intro inside
    induction items generalizing others with
    | nil =>
        cases inside
        exact .nil
    | cons item rest ih =>
        cases inside with
        | cons first more => exact .cons first (ih more)
  · intro inside
    induction inside with
    | nil => exact .nil
    | cons first _ more => exact .cons first more

theorem FieldsAreIn.exists_field? {fields others : List Field} (inside : FieldsAreIn fields others)
    {name : String} {value : Json} (found : field? name fields = some value)
    : ∃ other, field? name others = some other ∧ IsEqualTo value other := by
  induction fields with
  | nil => cases found
  | cons field rest ih =>
      cases inside with
      | cons there first more =>
          rw [field?] at found
          split at found
          · next same =>
              cases found
              exact ⟨_, same ▸ there, first⟩
          · exact ih more found

/-- A field is related to a field of the others that has its name and can be looked up, by induction
on the fields.
-/
theorem exists_field?_of_forall₂ {R : Field → Field → Prop} {fields others : List Field}
    (distinct : (others.map Prod.fst).Nodup) (inside : List.Forall₂ R fields others)
    (named : ∀ field other, R field other → field.1 = other.1) {field : Field}
    (member : field ∈ fields)
    : ∃ other, field? field.1 others = some other ∧ R field (field.1, other) := by
  induction inside with
  | nil => cases member
  | @cons first other rest others related more ih =>
      obtain ⟨name, value⟩ := other
      have same := named first (name, value) related
      rw [List.map_cons, List.nodup_cons] at distinct
      rcases List.mem_cons.mp member with rfl | later
      · refine ⟨value, ?_, ?_⟩
        · rw [field?, if_pos same.symm]
        · rw [same]
          exact related
      · obtain ⟨value', found, related'⟩ := ih distinct.2 later
        refine ⟨value', ?_, related'⟩
        rw [field?, if_neg, found]
        rintro rfl
        exact distinct.1 (List.mem_map.mpr ⟨_, mem_of_field? found, rfl⟩)

/-- Fields that are looked up with equal values are in the others, by induction on the fields. -/
theorem fieldsAreIn_of_forall {fields others : List Field}
    (each : ∀ field ∈ fields, ∃ other, field? field.1 others = some other ∧ IsEqualTo field.2 other)
    : FieldsAreIn fields others := by
  induction fields with
  | nil => exact .nil others
  | cons field rest ih =>
      rw [List.forall_mem_cons] at each
      obtain ⟨⟨other, found, first⟩, more⟩ := each
      exact .cons found first (ih more)

theorem seesInside_isEqualTo : SeesInside IsEqualTo := by
  constructor
  case string =>
    intro s t
    constructor
    · rintro ⟨⟩
      rfl
    · rintro rfl
      exact .string s
  case array =>
    intro items others
    rw [← itemsAreEqualTo_iff]
    constructor
    · rintro ⟨⟩
      assumption
    · exact .array
  case field =>
    intro fields others name value same found
    cases same with
    | object length inside => exact inside.exists_field? found
  case object =>
    intro fields others distinct inside
    refine .object inside.length_eq (fieldsAreIn_of_forall fun field member => ?_)
    obtain ⟨other, found, _, equal⟩ :=
      exists_field?_of_forall₂ distinct inside (fun _ _ related => related.1) member
    exact ⟨other, found, equal⟩

end RecordQuery.Json
