import RecordQuery.Proofs.Json.Fields
import RecordQuery.Proofs.Path.Spelling

/-! Looking up a path text without reading it as a path first. A text that is a path leads where the
path leads. A text that is none has an empty name, at which only an object leads on, and only one
that has a field of the empty name; so it leads nowhere in records without such fields.
-/

namespace RecordQuery

/-- A trimmed text that is no path has an empty name. -/
theorem PropertyPath.mem_split_of_parse_error {text : String} {error : PathError}
    (isTrimmed : Text.trimmed text = text) (failed : parse text = .error error)
    : "" ∈ split text := by
  unfold parse at failed
  simp only [isTrimmed] at failed
  split at failed
  · next empty =>
      subst empty
      decide
  · split at failed
    · cases failed
    · next unnamed =>
        obtain ⟨name, member, empty⟩ : ∃ name ∈ split text, name = "" := by simpa using unnamed
        exact empty ▸ member

namespace Json

/-- The empty name is no number, so it leads on at an object only. -/
theorem child?_empty_eq_some_iff {value child : Json}
    : value.child? "" = some child
      ↔ ∃ fields, value = .object fields ∧ field? "" fields = some child := by
  cases value with
  | object fields => simp [child?]
  | array items =>
      have notNumber : Text.unsigned64? [] = none := by decide
      simp [child?, notNumber]
  | null | bool _ | number _ | string _ => simp [child?]

/-- Names of which one is empty lead to a value where those before it lead to an object, and those
behind it from the field of the empty name to that value.
-/
theorem follow?_empty_eq_some_iff {record value : Json} {before after : List String}
    : record.follow? (before ++ "" :: after) = some value
      ↔ ∃ fields child, record.follow? before = some (.object fields)
        ∧ field? "" fields = some child ∧ child.follow? after = some value := by
  simp only [follow?_append, follow?_cons, Option.bind_eq_some_iff, child?_empty_eq_some_iff]
  constructor
  · rintro ⟨_, reached, child, ⟨fields, rfl, found⟩, rest⟩
    exact ⟨fields, child, reached, found, rest⟩
  · rintro ⟨fields, child, reached, found, rest⟩
    exact ⟨_, reached, child, ⟨fields, rfl, found⟩, rest⟩

/-- No object that names lead to has a field of the empty name. -/
def HasNoEmptyName (record : Json) : Prop :=
  ∀ names fields, record.follow? names = some (.object fields) → field? "" fields = none

/-- A trimmed text that is a path leads where the path leads. A trimmed text that is none leads
nowhere in a record without empty names; in any record, it leads to a value exactly where the names
before its first empty one lead to an object with a field of the empty name, and those behind it
from there to the value.
-/
theorem lookup?_agrees_resolve (record : Json) {text : String}
    (isTrimmed : Text.trimmed text = text)
    : (∀ path, PropertyPath.parse text = .ok path → record.lookup? text = path.resolve record)
      ∧ ∀ error, PropertyPath.parse text = .error error
        → (record.HasNoEmptyName → record.lookup? text = none)
          ∧ ∃ before after, PropertyPath.split text = before ++ "" :: after ∧ "" ∉ before
            ∧ ∀ value, record.lookup? text = some value
              ↔ ∃ fields child, record.follow? before = some (.object fields)
                ∧ field? "" fields = some child ∧ child.follow? after = some value := by
  constructor
  · intro path read
    rw [lookup?, PropertyPath.resolve, PropertyPath.names, PropertyPath.text_of_parse read,
      isTrimmed]
  · intro error failed
    obtain ⟨before, after, names, first⟩ :=
      List.eq_append_cons_of_mem (PropertyPath.mem_split_of_parse_error isTrimmed failed)
    have leads (value : Json) : record.lookup? text = some value
        ↔ ∃ fields child, record.follow? before = some (.object fields)
          ∧ field? "" fields = some child ∧ child.follow? after = some value := by
      rw [lookup?, names]
      exact follow?_empty_eq_some_iff
    refine ⟨fun noEmptyName => ?_, before, after, names, first, leads⟩
    refine Option.eq_none_iff_forall_ne_some.mpr fun value found => ?_
    obtain ⟨fields, child, reached, field, _⟩ := (leads value).mp found
    rw [noEmptyName before fields reached] at field
    cases field

/-- A path leads through an array; a text with an empty name in the middle leads through a field of
that name.
-/
theorem lookup?_agrees_resolve_emptyField
    : let record := Json.object [("a", .object [("", .array [.null, .bool true])])]
      let path : PropertyPath := ⟨"a", rfl, by decide⟩
      Text.trimmed "a" = "a" ∧ PropertyPath.parse "a" = .ok path
      ∧ record.lookup? "a" = path.resolve record
      ∧ Text.trimmed "a//1" = "a//1" ∧ PropertyPath.parse "a//1" = .error (.emptyName "a//1")
      ∧ ¬ record.HasNoEmptyName
      ∧ record.lookup? "a//1" = some (.bool true) := by
  intro record path
  have trimmedPath : Text.trimmed "a" = "a" := rfl
  have trimmedText : Text.trimmed "a//1" = "a//1" := rfl
  have read : PropertyPath.parse "a" = .ok path := rfl
  have failed : PropertyPath.parse "a//1" = .error (.emptyName "a//1") := rfl
  have found : record.lookup? "a//1" = some (.bool true) := by decide
  refine ⟨trimmedPath, read, (lookup?_agrees_resolve record trimmedPath).1 path read, trimmedText,
    failed, fun noEmptyName => ?_, found⟩
  have nowhere := ((lookup?_agrees_resolve record trimmedText).2 _ failed).1 noEmptyName
  exact absurd (found.symm.trans nowhere) (by decide)

/-- The empty text is no path and leads to the field of the empty name. -/
theorem not_lookup?_of_parse_error
    : ¬ ∀ (record : Json) (text : String), Text.trimmed text = text
        → (∀ path, PropertyPath.parse text = .ok path → record.lookup? text = path.resolve record)
          ∧ ∀ error, PropertyPath.parse text = .error error → record.lookup? text = none := by
  intro claimed
  have nowhere := (claimed (.object [("", .bool true)]) "" rfl).2 .empty rfl
  exact absurd nowhere (by decide)

end Json

end RecordQuery
