import RecordQuery.Json.Basic

/-! The levels of arrays and objects in a value. -/

namespace RecordQuery.Json

mutual
/-- The levels of arrays and objects in a value. -/
def nesting : Json → Nat
  | .array items => 1 + nestingOfItems items
  | .object fields => 1 + nestingOfFields fields
  | _ => 0

/-- The most levels of any item. -/
def nestingOfItems : List Json → Nat
  | [] => 0
  | item :: rest => max (nesting item) (nestingOfItems rest)

/-- The most levels of any field's value. -/
def nestingOfFields : List Field → Nat
  | [] => 0
  | (_, value) :: rest => max (nesting value) (nestingOfFields rest)
end

variable {values : List Json} {fields : List Field} {levels : Nat}

theorem nestingOfItems_le_iff
    : nestingOfItems values ≤ levels ↔ ∀ value ∈ values, nesting value ≤ levels := by
  induction values with
  | nil => simp [nestingOfItems]
  | cons value rest ih => rw [nestingOfItems, Nat.max_le, ih, List.forall_mem_cons]

theorem nestingOfFields_le_iff
    : nestingOfFields fields ≤ levels ↔ ∀ field ∈ fields, nesting field.2 ≤ levels := by
  induction fields with
  | nil => simp [nestingOfFields]
  | cons field rest ih => rw [nestingOfFields, Nat.max_le, ih, List.forall_mem_cons]

/-- An item has fewer levels than its array. -/
theorem nesting_lt_of_mem {item : Json} (member : item ∈ values)
    : nesting item < nesting (.array values) := by
  rw [nesting, Nat.lt_one_add_iff]
  exact nestingOfItems_le_iff.mp (Nat.le_refl _) item member

/-- The value of a field has fewer levels than its object. -/
theorem nesting_lt_of_field? {name : String} {value : Json} (found : field? name fields = some value)
    : nesting value < nesting (.object fields) := by
  rw [nesting, Nat.lt_one_add_iff]
  induction fields with
  | nil => cases found
  | cons field rest ih =>
      obtain ⟨key, first⟩ := field
      rw [field?] at found
      rw [nestingOfFields]
      split at found
      · cases found
        exact Nat.le_max_left _ _
      · exact Nat.le_trans (ih found) (Nat.le_max_right _ _)

end RecordQuery.Json
