import RecordQuery.Proofs.Filter.OctetReaders

/-! The cursor of the filter reader stays sound: between two characters, under at most 64 open
parentheses and behind at most 1024 joins. From every such cursor each reader comes to another one
that is not before it, or fails; no reader faults. A failure that gives a position gives one between
two characters, and what it quotes from there stands there.
-/

namespace RecordQuery

-----------------------------------------------------------------------------------------
-- What is sound
-----------------------------------------------------------------------------------------

/-- A cursor that the reader of a text may have. -/
structure Cursor.IsSound (text : List Char) (c : Cursor) : Prop where
  position : Text.IsBoundary text c.position
  depth : c.depth ≤ Scan.maxNesting
  joins : c.joins ≤ Scan.maxJoins

/-- The position that an error gives. -/
def ParseError.position? : ParseError → Option Nat
  | .unexpected _ position | .expectedChar _ position _ | .expectedOperator position _
  | .expectedOperatorAt position | .expectedOperand position _ | .unterminatedString position
  | .expectedDigits position | .invalidNumberAt position => some position
  | _ => none

/-- The text that an error quotes from its position. -/
def ParseError.found? : ParseError → Option (List Char)
  | .unexpected found _ | .expectedOperator _ found | .expectedOperand _ found => some found.toList
  | .expectedChar _ _ found => some [found]
  | _ => none

/-- An error is about a place of a text: its position falls between two characters there, and what
it quotes stands there.
-/
def QueryError.IsLocated (text : List Char) : QueryError → Prop
  | .parse error =>
    ∀ position ∈ error.position?, Text.IsBoundary text position
      ∧ ∀ found ∈ error.found?, Text.StandsAt text position found
  | _ => True

/-- What a reader may give from a cursor: a sound cursor that is not before it, or an error about a
place of the text. It never faults.
-/
def Cursor.Allows {α : Type} (text : List Char) (c : Cursor) : Except Stop (α × Cursor) → Prop
  | .ok (_, c') => c'.IsSound text ∧ c.position ≤ c'.position
  | .error (.error error) => error.IsLocated text
  | .error (.fault _) => False

namespace Reading

variable {α β : Type} {text : List Char} {depth : Nat} {s s' : Scanner}

/-- A reader is safe at every sound cursor where it may start, with a level for each parenthesis
that may still be opened and one more.
-/
def IsSafe (text : List Char) (starts : Cursor → Prop) (_joins : α → Nat) (p : Nat → Reading α)
    : Prop :=
  ∀ (c : Cursor) (levels : Nat), c.IsSound text → starts c → Scan.maxNesting < c.depth + levels
    → c.Allows text ((p levels).run c)

/-- A move faults where it does not lead between two characters. -/
theorem run_moveTo_eq_fault_iff {position : Nat} {c : Cursor} {fault : Fault}
    : (moveTo text position).run c = .error (.fault fault)
      ↔ ¬ Text.IsBoundary text position ∧ .position position = fault := by
  rw [moveTo, ← Text.isSome_partOctets?_iff]
  split
  · next found => exact iff_of_false (by intro same; cases same) fun held => held.1 found
  · next missing =>
      constructor
      · intro same
        cases same
        exact ⟨missing, rfl⟩
      · intro held
        rw [← held.2]
        rfl

/-- A cut faults where it ends before it starts, or one of its ends is inside a character. -/
theorem run_slice_eq_fault_iff {start stop : Nat} {c : Cursor} {fault : Fault}
    : (slice text start stop).run c = .error (.fault fault)
      ↔ ¬ (start ≤ stop ∧ Text.IsBoundary text start ∧ Text.IsBoundary text stop)
        ∧ .slice start stop = fault := by
  rw [slice, ← Text.isSome_slice?_iff]
  cases Text.slice? text start stop with
  | some found => exact iff_of_false (by intro same; cases same) fun held => held.1 rfl
  | none =>
      constructor
      · intro same
        cases same
        exact ⟨by simp, rfl⟩
      · intro held
        rw [← held.2]
        rfl

-----------------------------------------------------------------------------------------
-- Sound cursors are those of places in the text
-----------------------------------------------------------------------------------------

theorem exists_scanner {c : Cursor} (h : c.IsSound text)
    : ∃ s : Scanner, s.IsIn text ∧ s.cursor c.depth = c := by
  obtain ⟨before, after, split, count⟩ := Text.isBoundary_iff.mp h.position
  have joins := h.joins
  refine ⟨⟨after, c.position, Scan.maxJoins - c.joins⟩, ⟨⟨before, split, count.symm⟩, ?_⟩, ?_⟩
  · exact Nat.sub_le ..
  · rw [Scanner.cursor, Nat.sub_sub_self joins]

theorem isSound_cursor (h : s.IsIn text) (few : depth ≤ Scan.maxNesting)
    : (s.cursor depth).IsSound text := by
  obtain ⟨before, split, count⟩ := h.split
  exact {
    position := Text.isBoundary_iff.mpr ⟨before, s.rest, split, count.symm⟩
    depth := few
    joins := Nat.sub_le ..
  }

theorem allows_ok (h : s'.IsIn text) (few : depth ≤ Scan.maxNesting) (reached : s.Reaches s')
    (a : α)
    : (s.cursor depth).Allows text (.ok (a, s'.cursor depth)) := by
  obtain ⟨taken, _, position⟩ := reached
  refine ⟨isSound_cursor h few, ?_⟩
  rw [Scanner.position_cursor, Scanner.position_cursor, position]
  exact Nat.le_add_right ..

/-- What an error tells of the text ahead is about a place of the whole text. -/
theorem isLocated_of_isTrueAt (h : s.IsIn text) {error : QueryError} (isTrue : error.IsTrueAt s)
    : error.IsLocated text := by
  cases error with
  | parse error =>
      intro position same
      cases error with
      | unexpected | expectedChar | expectedOperator | expectedOperand =>
          cases same
          have stands := h.standsAt isTrue
          exact ⟨stands.isBoundary, fun found same => by cases same; exact stands⟩
      | expectedOperatorAt | unterminatedString | expectedDigits | invalidNumberAt =>
          cases same
          exact ⟨(h.standsAt isTrue).isBoundary, fun found same => by cases same⟩
      | _ => cases same
  | _ => trivial

/-- What a reader of characters allows, the octet reader that agrees with it does. -/
theorem Agree.allows {octets : Except Stop (α × Cursor)}
    {chars : Except QueryError (α × Scanner)} (agree : Agree text depth octets chars)
    (h : s.IsIn text) (few : depth ≤ Scan.maxNesting) (allowed : s.Allows chars)
    : (s.cursor depth).Allows text octets := by
  rw [agree.same]
  cases outcome : chars with
  | ok result =>
      obtain ⟨a, s'⟩ := result
      rw [outcome] at allowed
      exact allows_ok (agree.isIn a s' outcome) few allowed a
  | error error =>
      rw [outcome] at allowed
      exact isLocated_of_isTrueAt h allowed

/-- What a reader of characters does not do, an octet reader that it follows does not. -/
theorem IsFollowed.isSafe {starts : Cursor → Prop} {joins : α → Nat} {p : Nat → Reading α}
    (h : IsFollowed text starts joins p)
    : IsSafe text starts joins p := by
  obtain ⟨q, agree, goesOn, _⟩ := h
  intro c levels sound starts room
  obtain ⟨s, isIn, same⟩ := exists_scanner sound
  have few := sound.depth
  rw [← same] at starts
  have agree := agree (Scan.maxNesting - c.depth) levels s (Nat.sub_le ..) (by omega) isIn
  rw [Nat.sub_sub_self few] at agree
  rw [← same]
  exact (agree starts).allows isIn few (goesOn _ s)

/-- The counts are kept safely: a parenthesis may be closed where one is open. -/
structure CountsSafely (text : List Char) (c : Cursor) : Prop where
  enter : c.Allows text (enter.run c)
  leave : 0 < c.depth → c.Allows text (leave.run c)
  countJoin : c.Allows text (countJoin.run c)

theorem countsSafely {c : Cursor} (sound : c.IsSound text) : CountsSafely text c := by
  obtain ⟨s, h, same⟩ := exists_scanner sound
  have depth := sound.depth
  rw [← same]
  constructor
  · by_cases shallow : c.depth < Scan.maxNesting
    · rw [run_enter shallow]
      exact ⟨isSound_cursor h shallow, Nat.le_refl _⟩
    · rw [run_enter_deep (Nat.not_lt.mp shallow)]
      exact fun _ none => by cases none
  · intro isOpen
    obtain ⟨rest, deeper⟩ := Nat.exists_eq_add_one.mpr isOpen
    rw [Scanner.cursor] at deeper
    dsimp only at deeper
    rw [deeper, run_leave]
    exact ⟨isSound_cursor h (by omega), Nat.le_refl _⟩
  · rw [same, run_countJoin]
    split
    · exact fun _ none => by cases none
    · next few => exact ⟨⟨sound.position, depth, Nat.not_lt.mp few⟩, Nat.le_refl _⟩

end Reading

/-- A sound cursor is not behind the end of the text. -/
theorem Cursor.IsSound.position_le {text : List Char} {c : Cursor} (h : c.IsSound text)
    : c.position ≤ Text.octetCount text :=
  h.position.le

/-- Every reader is safe at every sound cursor of every text, and sound cursors are in the text. The
whole text is read as filters are: either both readers give the same filter, or they fail with the
same error, and its position falls between two characters, where what it quotes stands.
-/
theorem Filter.parse_isSafe (text : String)
    : (∀ c : Cursor, c.IsSound text.toList
        → c.position ≤ Text.octetCount text.toList ∧ Reading.CountsSafely text.toList c)
      ∧ Reading.EachReader text.toList (Reading.IsSafe text.toList)
      ∧ ((∃ filter c, Reading.outcome text.toList = .ok (filter, c)
            ∧ Filter.parse text = .ok filter ∧ c.IsSound text.toList)
        ∨ ∃ error, Reading.outcome text.toList = .error (.error error)
            ∧ Filter.parse text = .error error ∧ error.IsLocated text.toList) := by
  refine ⟨fun c sound => ⟨sound.position_le, Reading.countsSafely sound⟩,
    (Reading.eachReader_isFollowed text.toList).mono Reading.IsFollowed.isSafe, ?_⟩
  have start : (⟨text.toList, 0, Scan.maxJoins⟩ : Scanner).IsIn text.toList :=
    ⟨⟨[], rfl, rfl⟩, Nat.le_refl _⟩
  have agree := Reading.follows_filter _ start
  have allowed := Scan.goesOn_filter ⟨text.toList, 0, Scan.maxJoins⟩
  have same := Reading.outcome_eq text.toList
  rw [Filter.parse]
  cases read : Scan.filter.run ⟨text.toList, 0, Scan.maxJoins⟩ with
  | ok result =>
      obtain ⟨filter, s⟩ := result
      rw [read] at same
      exact .inl ⟨filter, s.cursor 0, same, rfl,
        Reading.isSound_cursor (agree.isIn filter s read) (Nat.zero_le _)⟩
  | error error =>
      rw [read] at same allowed
      exact .inr ⟨error, same, rfl, Reading.isLocated_of_isTrueAt start allowed⟩

end RecordQuery
