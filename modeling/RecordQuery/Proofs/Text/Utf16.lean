import RecordQuery.Proofs.Text.Utf8
import RecordQuery.Text.Utf16

/-! The UTF-16 units of a text determine it: surrogates are no characters, so the units of one
character never begin those of another one. In the order of their units only texts that are the same
are equal.
-/

namespace RecordQuery.Text

/-- The first character is told by the units, and so are the units behind it. -/
theorem unitsOfChar_append_inj {c d : Char} {more rest : List Nat}
    (h : unitsOfChar c ++ more = unitsOfChar d ++ rest)
    : c = d ∧ more = rest := by
  have left := toNat_valid c
  have right := toNat_valid d
  rw [← Char.toNat_inj]
  unfold unitsOfChar at h
  split at h
  · split at h
    · exact List.cons.inj h
    · -- one of these units is a surrogate and the other is not
      have first := (List.cons.inj h).1
      omega
  · split at h
    · have first := (List.cons.inj h).1
      omega
    · obtain ⟨high, h⟩ := List.cons.inj h
      obtain ⟨low, same⟩ := List.cons.inj h
      exact ⟨by omega, same⟩

theorem units_cons_ne_nil (c : Char) (rest : List Char) : units (c :: rest) ≠ [] := by
  rw [units, List.flatMap_cons, unitsOfChar]
  split <;> exact List.cons_ne_nil _ _

/-- Texts with the same units are the same, by induction on one of them. -/
theorem units_injective {left right : List Char} (h : units left = units right) : left = right := by
  induction left generalizing right with
  | nil =>
      cases right with
      | nil => rfl
      | cons d rest => exact absurd h.symm (units_cons_ne_nil d rest)
  | cons c more ih =>
      cases right with
      | nil => exact absurd h (units_cons_ne_nil c more)
      | cons d rest =>
          obtain ⟨rfl, later⟩ := unitsOfChar_append_inj h
          rw [ih later]

instance : Std.OrientedCmp compareUnits where
  eq_swap {_ _} := @Std.OrientedCmp.eq_swap _ (List.compareLex compare) _ _ _

instance : Std.TransCmp compareUnits where
  isLE_trans {_ _ _} := @Std.TransCmp.isLE_trans _ (List.compareLex compare) _ _ _ _

theorem compareUnits_eq_eq_iff {left right : String}
    : compareUnits left right = .eq ↔ left = right := by
  rw [compareUnits, Std.LawfulEqCmp.compare_eq_iff_eq]
  exact ⟨fun same => String.toList_injective (units_injective same), fun same => by rw [same]⟩

end RecordQuery.Text
