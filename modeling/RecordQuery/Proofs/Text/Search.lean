import RecordQuery.Proofs.Text.Utf16
import RecordQuery.Text.Search

/-! Where one text occurs in another, by characters and by UTF-16 units. The units of a text that is
not empty never start inside a surrogate pair, so they occur only where its characters do, and the
first occurrence is the same.
-/

namespace RecordQuery.Text

/-- A row occurs in another one, behind so many entries. -/
def OccursAt (needle text : List α) (place : Nat) : Prop :=
  ∃ before after, text = before ++ (needle ++ after) ∧ before.length = place

/-- A row occurs first at a place: there and at no smaller one. -/
structure IsFirstAt (needle text : List α) (place : Nat) : Prop where
  occurs : OccursAt needle text place
  first : ∀ other, OccursAt needle text other → place ≤ other

/-- The place of a text in another one in UTF-16 units, or -1 if it occurs nowhere. -/
inductive IsPlace (needle text : List Char) : Int → Prop where
  | found {place : Nat} (first : IsFirstAt (units needle) (units text) place)
      : IsPlace needle text place
  | nowhere (absent : ∀ place, ¬ OccursAt (units needle) (units text) place)
      : IsPlace needle text (-1)

-----------------------------------------------------------------------------------------
-- Occurrences of characters
-----------------------------------------------------------------------------------------

theorem occursAt_zero_iff {needle text : List α} : OccursAt needle text 0 ↔ needle <+: text := by
  constructor
  · rintro ⟨before, after, rfl, none⟩
    obtain rfl := List.length_eq_zero_iff.mp none
    exact ⟨after, rfl⟩
  · rintro ⟨after, rfl⟩
    exact ⟨[], after, rfl, rfl⟩

theorem occursAt_succ_iff {needle rest : List α} {c : α} {place : Nat}
    : OccursAt needle (c :: rest) (place + 1) ↔ OccursAt needle rest place := by
  constructor
  · rintro ⟨before, after, split, length⟩
    obtain ⟨d, before, rfl⟩ := List.exists_cons_of_length_eq_add_one length
    obtain ⟨rfl, later⟩ := List.cons.inj split
    exact ⟨before, after, later, by simpa using length⟩
  · rintro ⟨before, after, rfl, rfl⟩
    exact ⟨c :: before, after, rfl, rfl⟩

theorem exists_occursAt_iff {needle text : List α}
    : (∃ place, OccursAt needle text place) ↔ needle <:+: text := by
  constructor
  · rintro ⟨_, before, after, rfl, _⟩
    exact ⟨before, after, List.append_assoc ..⟩
  · rintro ⟨before, after, rfl⟩
    exact ⟨before.length, before, after, List.append_assoc .., rfl⟩

/-- The search finds the first occurrence, by induction along the text. -/
theorem isFirstAt_of_indexOf? {needle text : List Char} {place : Nat}
    (found : indexOf? needle text = some place)
    : IsFirstAt needle text place := by
  induction text generalizing place with
  | nil =>
      rw [indexOf?] at found
      split at found
      · next none =>
          cases found
          rw [List.isEmpty_iff.mp none]
          exact ⟨occursAt_zero_iff.mpr List.nil_prefix, fun other _ => Nat.zero_le other⟩
      · cases found
  | cons c rest ih =>
      rw [indexOf?] at found
      split at found
      · next here =>
          cases found
          exact ⟨occursAt_zero_iff.mpr (List.isPrefixOf_iff_prefix.mp here),
            fun other _ => Nat.zero_le other⟩
      · next apart =>
          obtain ⟨inner, behind, rfl⟩ := Option.map_eq_some_iff.mp found
          obtain ⟨occurs, first⟩ := ih behind
          refine ⟨occursAt_succ_iff.mpr occurs, fun other later => ?_⟩
          cases other with
          | zero => exact absurd (List.isPrefixOf_iff_prefix.mpr (occursAt_zero_iff.mp later)) apart
          | succ other => exact Nat.succ_le_succ (first other (occursAt_succ_iff.mp later))

/-- The search finds nothing only where there is nothing, by the same induction. -/
theorem not_occursAt_of_indexOf? {needle text : List Char} (none : indexOf? needle text = none)
    (place : Nat)
    : ¬ OccursAt needle text place := by
  induction text generalizing place with
  | nil =>
      rintro ⟨before, after, split, _⟩
      have empty : needle = [] := by simp_all
      simp [indexOf?, empty] at none
  | cons c rest ih =>
      rw [indexOf?] at none
      split at none
      · cases none
      · next apart =>
          intro occurs
          cases place with
          | zero => exact apart (List.isPrefixOf_iff_prefix.mpr (occursAt_zero_iff.mp occurs))
          | succ place =>
              exact ih (Option.map_eq_none_iff.mp none) place (occursAt_succ_iff.mp occurs)

theorem occursIn_iff {needle text : List Char} : occursIn needle text ↔ needle <:+: text := by
  rw [← exists_occursAt_iff, occursIn]
  cases found : indexOf? needle text with
  | some place => exact iff_of_true rfl ⟨place, (isFirstAt_of_indexOf? found).occurs⟩
  | none =>
      refine iff_of_false Bool.false_ne_true fun some => ?_
      obtain ⟨place, occurs⟩ := some
      exact not_occursAt_of_indexOf? found place occurs

-----------------------------------------------------------------------------------------
-- Occurrences of UTF-16 units
-----------------------------------------------------------------------------------------

/-- No character starts with the second unit of a surrogate pair. -/
theorem exists_units_eq_cons {text : List Char} (nonempty : text ≠ [])
    : ∃ unit rest, units text = unit :: rest ∧ (unit < 0xDC00 ∨ 0xDFFF < unit) := by
  obtain ⟨c, rest, rfl⟩ := List.exists_cons_of_ne_nil nonempty
  have valid := toNat_valid c
  rw [units, List.flatMap_cons, unitsOfChar]
  split
  · exact ⟨_, _, rfl, by omega⟩
  · exact ⟨_, _, rfl, by omega⟩

/-- Only the second unit of a surrogate pair stands behind another unit of a character. -/
theorem surrogate_of_unitsOfChar_eq {c : Char} {u unit : Nat} {before behind : List Nat}
    (split : unitsOfChar c = u :: before ++ unit :: behind)
    : 0xDC00 ≤ unit ∧ unit ≤ 0xDFFF := by
  have valid := toNat_valid c
  unfold unitsOfChar at split
  split at split
  · simp at split
  · rcases before with - | ⟨v, before⟩
    · obtain ⟨_, pair⟩ := List.cons.inj split
      have second := (List.cons.inj pair).1
      omega
    · simp at split

/-- Units that begin those of a text are of the characters that begin it, by induction on these. -/
theorem exists_of_units_prefix {needle text : List Char} {after : List Nat}
    (split : units text = units needle ++ after)
    : ∃ back, text = needle ++ back := by
  induction needle generalizing text with
  | nil => exact ⟨text, rfl⟩
  | cons d more ih =>
      cases text with
      | nil => exact absurd (List.append_eq_nil_iff.mp split.symm).1 (units_cons_ne_nil d more)
      | cons c rest =>
          rw [units, units, List.flatMap_cons, List.flatMap_cons, List.append_assoc] at split
          obtain ⟨rfl, later⟩ := unitsOfChar_append_inj split
          obtain ⟨back, rfl⟩ := ih later
          exact ⟨back, rfl⟩

/-- Units of a text that is not empty occur where its characters do, by induction along the other
text: what stands before them cannot end inside a surrogate pair.
-/
theorem exists_of_units_infix {needle text : List Char} (nonempty : needle ≠ [])
    {before after : List Nat} (split : units text = before ++ (units needle ++ after))
    : ∃ front back, text = front ++ (needle ++ back) ∧ units front = before := by
  obtain ⟨unit, tail, start, single⟩ := exists_units_eq_cons nonempty
  induction text generalizing before with
  | nil =>
      rw [start] at split
      simp [units] at split
  | cons c rest ih =>
      cases before with
      | nil =>
          obtain ⟨back, same⟩ := exists_of_units_prefix split
          exact ⟨[], back, same, rfl⟩
      | cons u before =>
          have whole : ∃ more, u :: before = unitsOfChar c ++ more
              ∧ units rest = more ++ (units needle ++ after) := by
            obtain same | ⟨behind, inside, later⟩ := List.append_eq_append_iff.mp split
            · exact same
            · rcases behind with - | ⟨second, behind⟩
              · exact ⟨[], by simpa using inside.symm, later.symm⟩
              · -- the needle would start with the second unit of the pair
                rw [start] at later
                obtain ⟨rfl, _⟩ := List.cons.inj later
                have surrogate := surrogate_of_unitsOfChar_eq inside
                omega
          obtain ⟨more, same, later⟩ := whole
          obtain ⟨front, back, rfl, rfl⟩ := ih later
          exact ⟨c :: front, back, rfl, same.symm⟩

theorem occursAt_units {needle text : List Char} {place : Nat} (occurs : OccursAt needle text place)
    : OccursAt (units needle) (units text) (unitCount (text.take place)) := by
  obtain ⟨before, after, rfl, rfl⟩ := occurs
  exact ⟨units before, units after, by simp, by simp [unitCount]⟩

theorem prefix_of_occursAt_units {needle text : List Char}
    (occurs : OccursAt (units needle) (units text) 0)
    : needle <+: text := by
  obtain ⟨after, split⟩ := occursAt_zero_iff.mp occurs
  obtain ⟨back, same⟩ := exists_of_units_prefix split.symm
  exact ⟨back, same.symm⟩

/-- The first occurrence by characters is the first one by units. -/
theorem IsFirstAt.units {needle text : List Char} {place : Nat} (h : IsFirstAt needle text place)
    : IsFirstAt (units needle) (Text.units text) (unitCount (text.take place)) := by
  refine ⟨occursAt_units h.occurs, fun other occurs => ?_⟩
  by_cases empty : needle = []
  · have start := h.first 0 (occursAt_zero_iff.mpr (empty ▸ List.nil_prefix))
    simp [Nat.le_zero.mp start, unitCount, Text.units]
  · obtain ⟨before, after, split, rfl⟩ := occurs
    obtain ⟨front, back, rfl, rfl⟩ := exists_of_units_infix empty split
    have bound := h.first front.length ⟨front, back, rfl, rfl⟩
    have parts := unitCount_append (front.take place) (front.drop place)
    rw [List.take_append_drop] at parts
    rw [List.take_append_of_le_length bound]
    exact Nat.le.intro parts.symm

theorem exists_occursAt_of_units {needle text : List Char} {place : Nat}
    (occurs : OccursAt (units needle) (units text) place)
    : ∃ inner, OccursAt needle text inner := by
  by_cases empty : needle = []
  · exact ⟨0, occursAt_zero_iff.mpr (empty ▸ List.nil_prefix)⟩
  · obtain ⟨before, after, split, _⟩ := occurs
    obtain ⟨front, back, same, _⟩ := exists_of_units_infix empty split
    exact ⟨front.length, front, back, same, rfl⟩

/-- A text starts with another one where this has the place zero, and contains it where it has one.
-/
theorem IsPlace.prefix_iff {needle text : List Char} {place : Int} (h : IsPlace needle text place)
    : (needle <+: text ↔ place = 0) ∧ (needle <:+: text ↔ 0 ≤ place) := by
  rw [← occursAt_zero_iff, ← exists_occursAt_iff]
  cases h with
  | @found place first =>
      refine ⟨⟨fun start => ?_, fun zero => ?_⟩,
        iff_of_true (exists_occursAt_of_units first.occurs) (Int.natCast_nonneg place)⟩
      · have least := first.first 0 (occursAt_units start)
        omega
      · have zero : place = 0 := by omega
        exact occursAt_zero_iff.mpr (prefix_of_occursAt_units (zero ▸ first.occurs))
  | nowhere absent =>
      have none (inner : Nat) : ¬ OccursAt needle text inner :=
        fun occurs => absent _ (occursAt_units occurs)
      exact ⟨iff_of_false (none 0) (by decide),
        iff_of_false (fun some => some.elim none) (by decide)⟩

end RecordQuery.Text
