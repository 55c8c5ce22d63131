import RecordQuery.Proofs.Text.Utf16

/-! The order of texts by UTF-16 units and the order by code points. Surrogates keep the characters
apart in the units too, so both orders are decided by the first characters in which two texts
differ. The orders are opposite where one of these characters is a surrogate pair, which begins with
a unit below U+E000, and the other one is a single unit above the surrogates. Anywhere else they
are the same.
-/

namespace RecordQuery.Text

variable {c d : Char} {left right : List Char}

/-- The order of texts by the code points of their characters, the shorter of two first where one
begins the other.
-/
def compareCodePoints (left right : String) : Ordering :=
  List.compareLex (compareOn Char.toNat) left.toList right.toList

/-- The first characters in which two texts differ, behind what the texts share. -/
def DifferFirst (left right : List Char) (c d : Char) : Prop :=
  c ≠ d ∧ ∃ shared more rest, left = shared ++ c :: more ∧ right = shared ++ d :: rest

/-- One character is a surrogate pair, and the other one is a single unit above the surrogates. -/
def AreAcrossSurrogates (c d : Char) : Prop :=
  0x10000 ≤ c.toNat ∧ 0xE000 ≤ d.toNat ∧ d.toNat ≤ 0xFFFF
  ∨ 0x10000 ≤ d.toNat ∧ 0xE000 ≤ c.toNat ∧ c.toNat ≤ 0xFFFF

/-- The first characters in which the texts differ stand across the surrogates. -/
def DifferAcrossSurrogates (left right : String) : Prop :=
  ∃ c d, DifferFirst left.toList right.toList c d ∧ AreAcrossSurrogates c d

-----------------------------------------------------------------------------------------
-- Orders of texts by characters
-----------------------------------------------------------------------------------------

theorem DifferFirst.here {more rest : List Char} (differ : c ≠ d)
    : DifferFirst (c :: more) (d :: rest) c d :=
  ⟨differ, [], more, rest, rfl, rfl⟩

theorem DifferFirst.later (first : DifferFirst left right c d) (e : Char)
    : DifferFirst (e :: left) (e :: right) c d := by
  obtain ⟨differ, shared, more, rest, rfl, rfl⟩ := first
  exact ⟨differ, e :: shared, more, rest, rfl, rfl⟩

theorem then_of_ne_eq {first : Ordering} (decided : first ≠ .eq) (next : Ordering)
    : first.then next = first := by
  cases first with
  | eq => exact absurd rfl decided
  | lt | gt => rfl

theorem swap_ne_of_ne_eq {found : Ordering} (decided : found ≠ .eq) : found.swap ≠ found := by
  cases found with
  | eq => exact absurd rfl decided
  | lt | gt => exact Ordering.noConfusion

section Characters

variable {order order' : Char → Char → Ordering} [Std.LawfulEqCmp order] [Std.LawfulEqCmp order']

/-- Characters that differ decide, whatever follows them. -/
theorem compareLex_cons_of_ne {more rest : List Char} (differ : c ≠ d)
    : List.compareLex order (c :: more) (d :: rest) = order c d := by
  rw [List.compareLex_cons_cons]
  exact then_of_ne_eq (mt Std.LawfulEqCmp.eq_of_compare differ) _

theorem compareLex_cons_self (c : Char) (more rest : List Char)
    : List.compareLex order (c :: more) (c :: rest) = List.compareLex order more rest := by
  have tied : order c c = .eq := Std.ReflCmp.compare_self
  rw [List.compareLex_cons_cons, tied, Ordering.eq_then]

/-- The first characters in which texts differ are in the order of the texts, by induction on what
is before them.
-/
theorem DifferFirst.compareLex_eq (first : DifferFirst left right c d)
    : List.compareLex order left right = order c d := by
  obtain ⟨differ, shared, more, rest, rfl, rfl⟩ := first
  induction shared with
  | nil => exact compareLex_cons_of_ne differ
  | cons e shared ih => exact (compareLex_cons_self e _ _).trans ih

/-- Two orders of characters order texts alike if they agree on the first characters in which the
texts differ. Where there are none, one text begins the other and is before it in either order.
-/
theorem compareLex_eq_of_differFirst
    (same : ∀ c d, DifferFirst left right c d → order c d = order' c d)
    : List.compareLex order left right = List.compareLex order' left right := by
  induction left generalizing right with
  | nil => cases right <;> rfl
  | cons c left ih =>
      cases right with
      | nil => rfl
      | cons d right =>
          by_cases equal : c = d
          · subst equal
            rw [compareLex_cons_self, compareLex_cons_self]
            exact ih fun x y first => same x y (first.later c)
          · rw [compareLex_cons_of_ne equal, compareLex_cons_of_ne equal]
            exact same c d (.here equal)

end Characters

-----------------------------------------------------------------------------------------
-- The units of two characters
-----------------------------------------------------------------------------------------

/-- The order of characters by their UTF-16 units. -/
def compareCharUnits (c d : Char) : Ordering :=
  List.compareLex compare (unitsOfChar c) (unitsOfChar d)

instance lawfulEqCmp_codePoint : Std.LawfulEqCmp (compareOn Char.toNat) where
  compare_self := Nat.compare_eq_eq.mpr rfl
  eq_of_compare equal := Char.toNat_inj.mp (Nat.compare_eq_eq.mp equal)

instance : Std.LawfulEqCmp compareCharUnits where
  compare_self {_} := @Std.ReflCmp.compare_self _ (List.compareLex compare) _ _
  eq_of_compare equal := by
    have same := congrArg (· ++ []) (Std.LawfulEqCmp.eq_of_compare equal)
    exact (unitsOfChar_append_inj same).1

theorem compareCharUnits_swap (c d : Char)
    : compareCharUnits c d = (compareCharUnits d c).swap :=
  @Std.OrientedCmp.eq_swap _ (List.compareLex compare) _ _ _

/-- A unit that is a character of its own is before the pairs if it is below the surrogates, and
behind them if it is above.
-/
theorem compareCharUnits_single_pair (single : c.toNat < 0x10000) (pair : 0x10000 ≤ d.toNat)
    : compareCharUnits c d = if c.toNat < 0xE000 then .lt else .gt := by
  have valid := toNat_valid c
  have bound := toNat_valid d
  rw [compareCharUnits, unitsOfChar, unitsOfChar, if_pos single, if_neg (by omega),
    List.compareLex_cons_cons]
  split
  · rw [Nat.compare_eq_lt.mpr (by omega), Ordering.lt_then]
  · rw [Nat.compare_eq_gt.mpr (by omega), Ordering.gt_then]

theorem compareCharUnits_single_single (single : c.toNat < 0x10000) (single' : d.toNat < 0x10000)
    : compareCharUnits c d = compareOn Char.toNat c d := by
  rw [compareCharUnits, unitsOfChar, unitsOfChar, if_pos single, if_pos single',
    List.compareLex_cons_cons, List.compareLex_nil_nil, Ordering.then_eq, compareOn]

/-- Pairs that share the first unit are told apart by the second one. -/
theorem compareCharUnits_pair_pair (pair : 0x10000 ≤ c.toNat) (pair' : 0x10000 ≤ d.toNat)
    : compareCharUnits c d = compareOn Char.toNat c d := by
  rw [compareCharUnits, unitsOfChar, unitsOfChar, if_neg (by omega), if_neg (by omega),
    List.compareLex_cons_cons, List.compareLex_cons_cons, List.compareLex_nil_nil,
    Ordering.then_eq, compareOn]
  rcases Nat.lt_trichotomy c.toNat d.toNat with less | equal | greater
  · rw [Nat.compare_eq_lt.mpr less, Ordering.then_eq_lt]
    simp only [Nat.compare_eq_lt, Nat.compare_eq_eq]
    omega
  · rw [equal]
    simp
  · rw [Nat.compare_eq_gt.mpr greater, Ordering.then_eq_gt]
    simp only [Nat.compare_eq_gt, Nat.compare_eq_eq]
    omega

/-- The units of a surrogate pair and of a single unit above the surrogates are in the order that
is opposite to that of the code points.
-/
theorem compareCharUnits_of_areAcrossSurrogates (across : AreAcrossSurrogates c d)
    : compareCharUnits c d = (compareOn Char.toNat c d).swap := by
  rcases across with ⟨pair, above, single⟩ | ⟨pair, above, single⟩
  · have behind : compareCharUnits d c = .gt := by
      rw [compareCharUnits_single_pair (by omega) pair, if_neg (by omega)]
    rw [compareCharUnits_swap, behind, compareOn, Nat.compare_eq_gt.mpr (by omega)]
  · rw [compareCharUnits_single_pair (by omega) pair, if_neg (by omega), compareOn,
      Nat.compare_eq_lt.mpr (by omega)]
    rfl

/-- The units of any other two characters are in the order of the code points. -/
theorem compareCharUnits_of_not_areAcrossSurrogates (apart : ¬ AreAcrossSurrogates c d)
    : compareCharUnits c d = compareOn Char.toNat c d := by
  unfold AreAcrossSurrogates at apart
  by_cases single : c.toNat < 0x10000
  · by_cases single' : d.toNat < 0x10000
    · exact compareCharUnits_single_single single single'
    · rw [compareCharUnits_single_pair single (by omega), if_pos (by omega), compareOn,
        Nat.compare_eq_lt.mpr (by omega)]
  · by_cases single' : d.toNat < 0x10000
    · have before : compareCharUnits d c = .lt := by
        rw [compareCharUnits_single_pair single' (by omega), if_pos (by omega)]
      rw [compareCharUnits_swap, before, compareOn, Nat.compare_eq_gt.mpr (by omega)]
      rfl
    · exact compareCharUnits_pair_pair (by omega) (by omega)

-----------------------------------------------------------------------------------------
-- Texts
-----------------------------------------------------------------------------------------

/-- The first units of two texts are in the order of the first characters, and where these are the
same the units behind them decide.
-/
theorem compareLex_unitsOfChar_append (c d : Char) (more rest : List Nat)
    : List.compareLex compare (unitsOfChar c ++ more) (unitsOfChar d ++ rest)
      = (compareCharUnits c d).then (List.compareLex compare more rest) := by
  have valid := toNat_valid c
  have bound := toNat_valid d
  unfold compareCharUnits unitsOfChar
  split <;> split
  · simp only [List.cons_append, List.nil_append, List.compareLex_cons_cons,
      List.compareLex_nil_nil, Ordering.then_eq]
  · -- a surrogate is no character, so the first units decide, here and in the next case
    have decided : compare c.toNat (0xD800 + (d.toNat - 0x10000) / 0x400) ≠ .eq :=
      mt Nat.compare_eq_eq.mp (by omega)
    simp only [List.cons_append, List.nil_append, List.compareLex_cons_cons, then_of_ne_eq decided]
  · have decided : compare (0xD800 + (c.toNat - 0x10000) / 0x400) d.toNat ≠ .eq :=
      mt Nat.compare_eq_eq.mp (by omega)
    simp only [List.cons_append, List.nil_append, List.compareLex_cons_cons, then_of_ne_eq decided]
  · simp only [List.cons_append, List.nil_append, List.compareLex_cons_cons,
      List.compareLex_nil_nil, Ordering.then_eq, Ordering.then_assoc]

/-- Texts are in the order of their characters, by induction on one of them. -/
theorem compareLex_units (left right : List Char)
    : List.compareLex compare (units left) (units right)
      = List.compareLex compareCharUnits left right := by
  induction left generalizing right with
  | nil =>
      cases right with
      | nil => rfl
      | cons d right =>
          obtain ⟨unit, more, whole⟩ := List.exists_cons_of_ne_nil (units_cons_ne_nil d right)
          rw [whole]
          rfl
  | cons c left ih =>
      cases right with
      | nil =>
          obtain ⟨unit, more, whole⟩ := List.exists_cons_of_ne_nil (units_cons_ne_nil c left)
          rw [whole]
          rfl
      | cons d right =>
          rw [List.compareLex_cons_cons, ← ih]
          exact compareLex_unitsOfChar_append c d (units left) (units right)

variable {a b : String}

/-- Where the first characters that differ stand across the surrogates, one order is the opposite of
the other.
-/
theorem compareUnits_of_differAcrossSurrogates (across : DifferAcrossSurrogates a b)
    : compareUnits a b = (compareCodePoints a b).swap ∧ compareCodePoints a b ≠ .eq := by
  obtain ⟨c, d, first, across⟩ := across
  rw [compareUnits, compareLex_units, compareCodePoints, first.compareLex_eq, first.compareLex_eq]
  exact ⟨compareCharUnits_of_areAcrossSurrogates across, mt Std.LawfulEqCmp.eq_of_compare first.1⟩

/-- Anywhere else the orders are the same. -/
theorem compareUnits_of_not_differAcrossSurrogates (apart : ¬ DifferAcrossSurrogates a b)
    : compareUnits a b = compareCodePoints a b := by
  rw [compareUnits, compareLex_units]
  refine compareLex_eq_of_differFirst fun c d first => ?_
  exact compareCharUnits_of_not_areAcrossSurrogates fun across => apart ⟨c, d, first, across⟩

/-- The units order texts: only the same texts tie, the order can be turned round, and what is less
is transitive. This is the order of the code points, except for texts whose first characters that
differ stand across the surrogates: for them it is the opposite.
-/
theorem compareUnits_isOrder_codePoints (a b c : String)
    : (compareUnits a b = .eq ↔ a = b)
      ∧ compareUnits b a = (compareUnits a b).swap
      ∧ (compareUnits a b = .lt → compareUnits b c = .lt → compareUnits a c = .lt)
      ∧ (compareUnits a b = compareCodePoints a b ↔ ¬ DifferAcrossSurrogates a b)
      ∧ (DifferAcrossSurrogates a b → compareUnits a b = (compareCodePoints a b).swap) := by
  refine ⟨compareUnits_eq_eq_iff, Std.OrientedCmp.eq_swap, Std.TransCmp.lt_trans, ⟨?_, ?_⟩, ?_⟩
  · intro same across
    obtain ⟨opposite, differ⟩ := compareUnits_of_differAcrossSurrogates across
    exact swap_ne_of_ne_eq differ (opposite.symm.trans same)
  · exact compareUnits_of_not_differAcrossSurrogates
  · exact fun across => (compareUnits_of_differAcrossSurrogates across).1

/-- Two pairs with the same first unit are in the order of their code points, and both are before a
ligature whose code point is below theirs.
-/
theorem compareUnits_isOrder_codePoints_ligature
    : (compareUnits "a😀" "a😁" = .lt ∧ compareCodePoints "a😀" "a😁" = .lt
        ∧ ¬ DifferAcrossSurrogates "a😀" "a😁")
      ∧ (DifferAcrossSurrogates "a😁" "aﬁ" ∧ compareCodePoints "a😁" "aﬁ" = .gt
        ∧ compareUnits "a😁" "aﬁ" = .lt)
      ∧ compareUnits "a😀" "aﬁ" = .lt := by
  have below : compareUnits "a😀" "a😁" = .lt := by decide +kernel
  have below' : compareCodePoints "a😀" "a😁" = .lt := by decide +kernel
  have above : compareCodePoints "a😁" "aﬁ" = .gt := by decide +kernel
  have across : DifferAcrossSurrogates "a😁" "aﬁ" :=
    ⟨'😁', 'ﬁ', ⟨by decide, ['a'], [], [], rfl, rfl⟩, .inl (by decide)⟩
  obtain ⟨_, _, trans, agree, _⟩ := compareUnits_isOrder_codePoints "a😀" "a😁" "aﬁ"
  obtain ⟨_, _, _, _, opposite⟩ := compareUnits_isOrder_codePoints "a😁" "aﬁ" "aﬁ"
  have before : compareUnits "a😁" "aﬁ" = .lt := by rw [opposite across, above, Ordering.swap_gt]
  exact ⟨⟨below, below', agree.mp (below.trans below'.symm)⟩, ⟨across, above, before⟩,
    trans below before⟩

end RecordQuery.Text
