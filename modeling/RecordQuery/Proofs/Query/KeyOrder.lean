import RecordQuery.Proofs.Query.Sorting

/-! The order of records by several keys. The first key that tells two records apart decides, by the
kinds and the values under its path and in its direction. The order is transitive on some records
where that of each key is, and that of a key is wherever no double under its path can be equal to
two different integers there.
-/

namespace RecordQuery

-----------------------------------------------------------------------------------------
-- The order of values
-----------------------------------------------------------------------------------------

/-- The kinds of values in ascending order; an absent value comes first. -/
def kindOrder : List (Option Json.Kind) :=
  [none, some .null, some .boolean, some .number, some .string, some .array, some .object]

/-- One value stands before another in ascending order: its kind comes first, or both are scalars
of one kind whose order puts it first.
-/
def StandsBefore (x y : Option Json) : Prop :=
  kindOrder.idxOf (x.map Json.kind) < kindOrder.idxOf (y.map Json.kind)
  ∨ partialOrder x y = some .lt

theorem rank_eq_idxOf (x : Option Json) : rank x = kindOrder.idxOf (x.map Json.kind) := by
  cases x with
  | none => rfl
  | some value => cases value <;> rfl

theorem totalOrder_eq_lt_iff {x y : Option Json} : totalOrder x y = .lt ↔ StandsBefore x y := by
  rw [totalOrder, Ordering.then_eq_lt, Nat.compare_eq_lt, Nat.compare_eq_eq, StandsBefore,
    ← rank_eq_idxOf, ← rank_eq_idxOf]
  refine or_congr_right ⟨fun held => ?_, fun ordered => ?_⟩
  · cases order : partialOrder x y with
    | none =>
        rw [order] at held
        cases held.2
    | some order =>
        rw [order] at held
        exact congrArg some held.2
  · rw [ordered]
    exact ⟨rank_eq_of_partialOrder ordered, rfl⟩

namespace SortKey

-----------------------------------------------------------------------------------------
-- The order of records
-----------------------------------------------------------------------------------------

/-- A key puts a record before another one: by the values under its path, in its direction. -/
def PutsFirst (key : SortKey) (x y : Json) : Prop :=
  match key.direction with
  | .ascending => StandsBefore (key.path.resolve x) (key.path.resolve y)
  | .descending => StandsBefore (key.path.resolve y) (key.path.resolve x)

/-- The first key that tells two records apart puts one before the other. -/
inductive Precedes : List SortKey → Json → Json → Prop
  | here {key rest x y} (apart : key.PutsFirst x y) : Precedes (key :: rest) x y
  | later {key rest x y} (tied : ¬ key.PutsFirst x y ∧ ¬ key.PutsFirst y x)
    (next : Precedes rest x y)
    : Precedes (key :: rest) x y

variable {key : SortKey} {keys : List SortKey} {records : List Json} {x y : Json}

theorem compare_eq_lt_iff : key.compare x y = .lt ↔ key.PutsFirst x y := by
  unfold compare PutsFirst
  cases key.direction with
  | ascending => exact totalOrder_eq_lt_iff
  | descending =>
      dsimp only
      rw [← @Std.OrientedCmp.eq_swap _ totalOrder]
      exact totalOrder_eq_lt_iff

/-- A key ties the records that it puts in neither order. -/
theorem compare_eq_eq_iff
    : key.compare x y = .eq ↔ ¬ key.PutsFirst x y ∧ ¬ key.PutsFirst y x := by
  have turned : key.compare y x = (key.compare x y).swap := Std.OrientedCmp.eq_swap
  rw [← compare_eq_lt_iff, ← compare_eq_lt_iff, turned]
  cases key.compare x y <;> decide

/-- The order by several keys is lexicographic, by induction on the keys. -/
theorem compareAll_eq_lt_iff : compareAll keys x y = .lt ↔ Precedes keys x y := by
  induction keys with
  | nil => exact ⟨(nomatch ·), (nomatch ·)⟩
  | cons key rest ih =>
      rw [compareAll, Ordering.then_eq_lt, compare_eq_lt_iff, compare_eq_eq_iff, ih]
      constructor
      · rintro (apart | ⟨tied, next⟩)
        · exact .here apart
        · exact .later tied next
      · intro precedes
        cases precedes with
        | here apart => exact .inl apart
        | later tied next => exact .inr ⟨tied, next⟩

instance : Decidable (Precedes keys x y) :=
  decidable_of_iff _ compareAll_eq_lt_iff

theorem isLE_compareAll_iff : (compareAll keys x y).isLE ↔ ¬ Precedes keys y x := by
  rw [← compareAll_eq_lt_iff, compareAll_swap keys x y]
  cases compareAll keys x y <;> decide

/-- Records tie on several keys where they tie on each, by induction on the keys. -/
theorem compareAll_eq_eq_iff : compareAll keys x y = .eq ↔ ∀ key ∈ keys, key.compare x y = .eq := by
  induction keys with
  | nil => exact ⟨fun _ _ none => absurd none List.not_mem_nil, fun _ => rfl⟩
  | cons key rest ih => rw [compareAll, Ordering.then_eq_eq, ih, List.forall_mem_cons]

/-- Two records tie on every key: none puts one before the other. -/
def AreTied (keys : List SortKey) (x y : Json) : Prop :=
  ∀ key ∈ keys, ¬ key.PutsFirst x y ∧ ¬ key.PutsFirst y x

theorem ties_iff_areTied : ties keys x y ↔ AreTied keys x y := by
  rw [ties, decide_eq_true_iff, compareAll_eq_eq_iff]
  exact forall₂_congr fun _ _ => compare_eq_eq_iff

instance : Decidable (AreTied keys x y) :=
  decidable_of_iff _ ties_iff_areTied

-----------------------------------------------------------------------------------------
-- Records on which the order is transitive
-----------------------------------------------------------------------------------------

theorem compareAll_singleton (key : SortKey) (x y : Json)
    : compareAll [key] x y = key.compare x y := by
  rw [compareAll, compareAll, Ordering.then_eq]

theorem compareAll_append (front back : List SortKey) (x y : Json)
    : compareAll (front ++ back) x y = (compareAll front x y).then (compareAll back x y) := by
  induction front with
  | nil => rfl
  | cons key front ih => rw [List.cons_append, compareAll, compareAll, ih, Ordering.then_assoc]

/-- An order that a second one refines: the second is asked where the first one ties. -/
theorem isLE_then_iff {first second : Ordering}
    : (first.then second).isLE ↔ first.isLE ∧ (first = .eq → second.isLE) := by
  cases first <;> simp

/-- The order of the keys, on the places of some records. -/
def comparePlaces (keys : List SortKey) (records : List Json) (i j : Fin records.length)
    : Ordering :=
  compareAll keys (records.get i) (records.get j)

theorem isTransitiveOn_iff
    : IsTransitiveOn keys records ↔ Std.TransCmp (comparePlaces keys records) := by
  constructor
  · intro transitive
    refine { eq_swap := compareAll_swap keys _ _, isLE_trans := fun low high => ?_ }
    exact transitive _ (List.getElem_mem _) _ (List.getElem_mem _) _ (List.getElem_mem _) low high
  · intro transitive x first y second z third low high
    obtain ⟨i, rfl⟩ := List.mem_iff_get.mp first
    obtain ⟨j, rfl⟩ := List.mem_iff_get.mp second
    obtain ⟨k, rfl⟩ := List.mem_iff_get.mp third
    exact transitive.isLE_trans low high

/-- Two transitive orders are transitive one after the other. -/
theorem IsTransitiveOn.append {front back : List SortKey} (first : IsTransitiveOn front records)
    (second : IsTransitiveOn back records)
    : IsTransitiveOn (front ++ back) records := by
  have := isTransitiveOn_iff.mp first
  have := isTransitiveOn_iff.mp second
  have both : comparePlaces (front ++ back) records
      = compareLex (comparePlaces front records) (comparePlaces back records) := by
    funext i j
    exact compareAll_append front back (records.get i) (records.get j)
  rw [isTransitiveOn_iff, both]
  infer_instance

theorem isTransitiveOn_nil (records : List Json) : IsTransitiveOn [] records :=
  fun _ _ _ _ _ _ _ _ => rfl

/-- The order by several keys is transitive where that of each key is, by induction on the keys. -/
theorem isTransitiveOn_of_forall (each : ∀ key ∈ keys, IsTransitiveOn [key] records)
    : IsTransitiveOn keys records := by
  induction keys with
  | nil => exact isTransitiveOn_nil records
  | cons key rest ih =>
      have others := ih fun other member => each other (List.mem_cons_of_mem key member)
      exact (each key List.mem_cons_self).append others

-----------------------------------------------------------------------------------------
-- Numbers that keep a key transitive
-----------------------------------------------------------------------------------------

/-- The numbers that a key meets in some records are all integers, or are all doubles or integers of
up to 2^53.
-/
def HasComparableNumbers (key : SortKey) (records : List Json) : Prop :=
  (∀ record ∈ records, ∀ d, key.path.resolve record ≠ some (.number (.double d)))
  ∨ ∀ record ∈ records, ∀ m inRange,
    key.path.resolve record = some (.number (.int m inRange)) → m.natAbs ≤ twoPow 53

theorem HasComparableNumbers.not_conflated {x y z : Json}
    (comparable : key.HasComparableNumbers records) (first : x ∈ records) (second : y ∈ records)
    (third : z ∈ records)
    : ¬ NumbersConflated (key.path.resolve x) (key.path.resolve y) (key.path.resolve z) := by
  rintro ⟨_, _, _, left, middle, right, apart⟩
  have numbers := apart
  obtain ⟨⟨m, _, n, _, rfl, rfl, _⟩, ⟨d, rfl⟩, _⟩ := numbers
  rcases comparable with integers | small
  · exact integers y second d middle
  · exact Number.not_conflated_of_natAbs_le (small x first m _ left) (small z third n _ right) apart

/-- A key is transitive on records with numbers that can be compared, in either direction. -/
theorem HasComparableNumbers.isTransitiveOn (comparable : key.HasComparableNumbers records)
    : IsTransitiveOn [key] records := by
  intro x first y second z third low high
  rw [compareAll_singleton] at low high ⊢
  unfold compare at low high ⊢
  cases direction : key.direction with
  | ascending =>
      simp only [direction] at low high
      exact (isLE_totalOrder_trans low high).resolve_right
        (comparable.not_conflated first second third)
  | descending =>
      simp only [direction, ← @Std.OrientedCmp.eq_swap _ totalOrder] at low high ⊢
      exact (isLE_totalOrder_trans high low).resolve_right
        (comparable.not_conflated third second first)

end SortKey

end RecordQuery
