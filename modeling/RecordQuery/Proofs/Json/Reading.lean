import RecordQuery.Json.Reader
import RecordQuery.Proofs.Json.Fields
import RecordQuery.Proofs.Json.Nesting

/-! What values are read. A text gives a value only with as many levels of nesting as are allowed,
and one whose objects have distinct names. Each reader of a part of a text gives what holds of the
values inside it, so the bound and the names go up from one level to the next.
-/

namespace RecordQuery.Json

-----------------------------------------------------------------------------------------
-- Values that a text can hold
-----------------------------------------------------------------------------------------

/-- A value with at most some levels of nesting, whose objects have distinct names. -/
structure IsPlain (levels : Nat) (value : Json) : Prop where
  shallow : nesting value ≤ levels
  distinct : value.HasDistinctKeys

theorem isPlain_array {levels : Nat} {items : List Json}
    (inside : ∀ item ∈ items, item.IsPlain levels)
    : (array items).IsPlain (levels + 1) := by
  constructor
  · rw [nesting, Nat.add_comm]
    exact Nat.succ_le_succ (nestingOfItems_le_iff.mpr fun item member =>
      (inside item member).shallow)
  · exact itemsHaveDistinctKeys_iff.mpr fun item member => (inside item member).distinct

theorem isPlain_object {levels : Nat} {fields : List Field} (names : (fields.map Prod.fst).Nodup)
    (inside : ∀ field ∈ fields, field.2.IsPlain levels)
    : (object fields).IsPlain (levels + 1) := by
  constructor
  · rw [nesting, Nat.add_comm]
    exact Nat.succ_le_succ (nestingOfFields_le_iff.mpr fun field member =>
      (inside field member).shallow)
  · exact ⟨names, fieldsHaveDistinctKeys_iff.mpr fun field member => (inside field member).distinct⟩

-----------------------------------------------------------------------------------------
-- Readers of the parts of a text
-----------------------------------------------------------------------------------------

/-- Whatever a reader gives has a property. -/
def Yields (reader : List Char → Option (α × List Char)) (holds : α → Prop) : Prop :=
  ∀ text value rest, reader text = some (value, rest) → holds value

section Parts

variable {item : List Char → Option (Json × List Char)} {holds : Json → Prop}

theorem Yields.itemsAfter? (yields : Yields item holds) (steps : Nat)
    : Yields (itemsAfter? item steps) (fun items => ∀ item ∈ items, holds item) := by
  intro text items rest read
  induction steps generalizing text items rest with
  | zero => cases read
  | succ steps ih =>
      rw [Json.itemsAfter?] at read
      split at read
      · cases read
        exact fun item none => absurd none List.not_mem_nil
      · simp only [Option.bind_eq_bind, Option.bind_eq_some_iff] at read
        obtain ⟨⟨first, _⟩, readFirst, ⟨others, _⟩, readOthers, same⟩ := read
        cases same
        exact List.forall_mem_cons.mpr ⟨yields _ _ _ readFirst, ih _ _ _ readOthers⟩
      · cases read

theorem Yields.items? (yields : Yields item holds) (steps : Nat)
    : Yields (items? item steps) (fun items => ∀ item ∈ items, holds item) := by
  intro text items rest read
  rw [Json.items?] at read
  split at read
  · cases read
    exact fun item none => absurd none List.not_mem_nil
  · simp only [Option.bind_eq_bind, Option.bind_eq_some_iff] at read
    obtain ⟨⟨first, _⟩, readFirst, ⟨others, _⟩, readOthers, same⟩ := read
    cases same
    exact List.forall_mem_cons.mpr ⟨yields _ _ _ readFirst, yields.itemsAfter? _ _ _ _ readOthers⟩

theorem Yields.field (yields : Yields item holds) (steps : Nat)
    : Yields (field item steps) (fun entry => holds entry.2) := by
  intro text entry rest read
  rw [Json.field] at read
  simp only [Option.bind_eq_bind, Option.bind_eq_some_iff] at read
  obtain ⟨⟨name, _⟩, _, read⟩ := read
  split at read
  · simp only [Option.bind_eq_some_iff] at read
    obtain ⟨⟨value, _⟩, readValue, same⟩ := read
    cases same
    exact yields _ _ _ readValue
  · cases read

theorem Yields.entriesAfter? (yields : Yields item holds) (steps : Nat)
    : Yields (entriesAfter? item steps) (fun entries => ∀ entry ∈ entries, holds entry.2) := by
  intro text entries rest read
  induction steps generalizing text entries rest with
  | zero => cases read
  | succ steps ih =>
      rw [Json.entriesAfter?] at read
      split at read
      · cases read
        exact fun entry none => absurd none List.not_mem_nil
      · simp only [Option.bind_eq_bind, Option.bind_eq_some_iff] at read
        obtain ⟨⟨first, _⟩, readFirst, ⟨others, _⟩, readOthers, same⟩ := read
        cases same
        exact List.forall_mem_cons.mpr
          ⟨yields.field steps _ _ _ readFirst, ih _ _ _ readOthers⟩
      · cases read

theorem Yields.entries? (yields : Yields item holds) (steps : Nat)
    : Yields (entries? item steps) (fun entries => ∀ entry ∈ entries, holds entry.2) := by
  intro text entries rest read
  rw [Json.entries?] at read
  split at read
  · cases read
    exact fun entry none => absurd none List.not_mem_nil
  · simp only [Option.bind_eq_bind, Option.bind_eq_some_iff] at read
    obtain ⟨⟨first, _⟩, readFirst, ⟨others, _⟩, readOthers, same⟩ := read
    cases same
    exact List.forall_mem_cons.mpr
      ⟨yields.field steps _ _ _ readFirst, yields.entriesAfter? _ _ _ _ readOthers⟩

end Parts

theorem yields_scalar? (steps levels : Nat) : Yields (scalar? steps) (IsPlain levels) := by
  intro text value rest read
  unfold scalar? at read
  split at read
  · cases read
    exact ⟨Nat.zero_le _, trivial⟩
  · cases read
    exact ⟨Nat.zero_le _, trivial⟩
  · cases read
    exact ⟨Nat.zero_le _, trivial⟩
  · obtain ⟨⟨s, after⟩, _, same⟩ := Option.map_eq_some_iff.mp read
    cases same
    exact ⟨Nat.zero_le _, trivial⟩
  · obtain ⟨⟨n, after⟩, _, same⟩ := Option.map_eq_some_iff.mp read
    cases same
    exact ⟨Nat.zero_le _, trivial⟩

/-- A value has no more levels than were allowed, and distinct names, by induction on the levels. -/
theorem yields_value? (steps levels : Nat) : Yields (value? steps levels) (IsPlain levels) := by
  induction levels with
  | zero =>
      intro text value rest read
      exact yields_scalar? steps 0 text value rest read
  | succ levels ih =>
      intro text value rest read
      unfold value? at read
      split at read
      · exact yields_scalar? steps _ _ value rest read
      · next inner more level =>
          cases level
          obtain ⟨⟨items, after⟩, readItems, same⟩ := Option.map_eq_some_iff.mp read
          cases same
          exact isPlain_array (ih.items? _ _ _ _ readItems)
      · next inner more level =>
          cases level
          obtain ⟨⟨entries, after⟩, readEntries, same⟩ := Option.map_eq_some_iff.mp read
          cases same
          obtain ⟨members, names⟩ := fieldsOf_spec entries
          exact isPlain_object names fun field member =>
            ih.entries? _ _ _ _ readEntries field (members field member)
      · exact yields_scalar? steps _ _ value rest read

/-- A value that is read from a text can be read again: it is not nested too deeply, and no name comes
twice.
-/
theorem isPlain_of_read? {text : String} {value : Json} (read : read? text = some value)
    : value.IsPlain defaultNesting := by
  simp only [read?, readNested?, Option.bind_eq_bind, Option.bind_eq_some_iff] at read
  obtain ⟨⟨found, rest⟩, readValue, ended⟩ := read
  dsimp only at ended
  split at ended
  · cases ended
    exact yields_value? _ _ _ _ _ readValue
  · cases ended

end RecordQuery.Json
