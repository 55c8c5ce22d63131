/-! Computations that take some items in turn and stop at the first one that fails. What such a
computation gives is told by its items: the error of the first that fails, or a result if none does.
-/

namespace RecordQuery

/-- The first of some items that fails does so with an error; no item before it fails. -/
inductive FirstFails (fails : σ → ε → Prop) : List σ → ε → Prop
  | here {item rest error} (failed : fails item error) : FirstFails fails (item :: rest) error
  | later {item rest error} (passed : ∀ other, ¬ fails item other)
    (more : FirstFails fails rest error)
    : FirstFails fails (item :: rest) error

/-- A computation gives a result where none of some items fails, and otherwise the error of the
first that does.
-/
def TakesInTurn (fails : σ → ε → Prop) (items : List σ) (computed : Except ε α) : Prop :=
  match computed with
  | .ok _ => ∀ item ∈ items, ∀ error, ¬ fails item error
  | .error error => FirstFails fails items error

variable {fails : σ → ε → Prop} {items more : List σ} {error : ε}

-----------------------------------------------------------------------------------------
-- The first item that fails
-----------------------------------------------------------------------------------------

theorem FirstFails.exists_mem (first : FirstFails fails items error)
    : ∃ item ∈ items, fails item error := by
  induction first with
  | here failed => exact ⟨_, List.mem_cons_self, failed⟩
  | later passed rest ih =>
      obtain ⟨item, member, failed⟩ := ih
      exact ⟨item, List.mem_cons_of_mem _ member, failed⟩

/-- What comes behind the first item that fails is not taken. -/
theorem FirstFails.append (first : FirstFails fails items error) (more : List σ)
    : FirstFails fails (items ++ more) error := by
  induction first with
  | here failed => exact .here failed
  | later passed rest ih => exact .later passed ih

/-- Items that do not fail are passed over. -/
theorem FirstFails.behind (passed : ∀ item ∈ items, ∀ other, ¬ fails item other)
    (first : FirstFails fails more error)
    : FirstFails fails (items ++ more) error := by
  induction items with
  | nil => exact first
  | cons item rest ih =>
      rw [List.forall_mem_cons] at passed
      exact .later passed.1 (ih passed.2)

/-- There is one first error where each item has one. -/
theorem FirstFails.unique {other : ε}
    (single : ∀ item error other, fails item error → fails item other → error = other)
    (first : FirstFails fails items error) (again : FirstFails fails items other)
    : error = other := by
  induction first with
  | here failed =>
      cases again with
      | here failed' => exact single _ _ _ failed failed'
      | later passed => exact absurd failed (passed _)
  | later passed rest ih =>
      cases again with
      | here failed => exact absurd failed (passed _)
      | later _ more => exact ih more

-----------------------------------------------------------------------------------------
-- Computations in turn
-----------------------------------------------------------------------------------------

namespace TakesInTurn

variable {computed : Except ε α}

/-- A result that takes no items. -/
theorem ok (result : α) : TakesInTurn fails [] (.ok result : Except ε α) :=
  fun _ none => absurd none List.not_mem_nil

/-- A computation that fails as an item does takes that item. -/
theorem singleton {item : σ} (same : ∀ error, computed = .error error ↔ fails item error)
    : TakesInTurn fails [item] computed := by
  cases computed with
  | error error => exact .here ((same error).mp rfl)
  | ok result =>
      refine List.forall_mem_singleton.mpr fun error failed => ?_
      cases (same error).mpr failed

/-- Two steps take the items of the first one and then those of the second. -/
theorem bind {next : α → Except ε β} (first : TakesInTurn fails items computed)
    (second : ∀ value, computed = .ok value → TakesInTurn fails more (next value))
    : TakesInTurn fails (items ++ more) (computed >>= next) := by
  cases computed with
  | error error => exact FirstFails.append first more
  | ok value =>
      have rest := second value rfl
      change TakesInTurn fails (items ++ more) (next value)
      cases outcome : next value with
      | error error =>
          rw [outcome] at rest
          exact FirstFails.behind first rest
      | ok result =>
          rw [outcome] at rest
          intro item member
          exact (List.mem_append.mp member).elim (first item) (rest item)

theorem map (inTurn : TakesInTurn fails items computed) (change : α → β)
    : TakesInTurn fails items (computed.map change) := by
  cases computed with
  | error error => exact inTurn
  | ok value => exact inTurn

/-- A computation in turn fails with the first error, where each item has one. -/
theorem eq_error_iff
    (single : ∀ item error other, fails item error → fails item other → error = other)
    (inTurn : TakesInTurn fails items computed)
    : computed = .error error ↔ FirstFails fails items error := by
  cases computed with
  | error other =>
      refine ⟨fun same => Except.error.inj same ▸ inTurn, fun first => ?_⟩
      rw [FirstFails.unique single inTurn first]
  | ok value =>
      refine ⟨(nomatch ·), fun first => ?_⟩
      obtain ⟨item, member, failed⟩ := first.exists_mem
      exact absurd failed (inTurn item member error)

/-- A computation in turn fails where one of the items does. -/
theorem exists_error_iff (inTurn : TakesInTurn fails items computed)
    : (∃ error, computed = .error error) ↔ ∃ item ∈ items, ∃ error, fails item error := by
  cases computed with
  | error error =>
      obtain ⟨item, member, failed⟩ := FirstFails.exists_mem inTurn
      exact ⟨fun _ => ⟨item, member, error, failed⟩, fun _ => ⟨error, rfl⟩⟩
  | ok value =>
      refine ⟨fun ⟨_, same⟩ => (nomatch same), fun ⟨item, member, error, failed⟩ => ?_⟩
      exact absurd failed (inTurn item member error)

end TakesInTurn

end RecordQuery
