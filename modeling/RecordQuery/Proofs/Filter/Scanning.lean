import RecordQuery.Proofs.Filter.Grammar
import RecordQuery.Proofs.Text.Runs
import RecordQuery.Proofs.Text.Words

/-! What the steps of the filter reader do to the text that is left. A sequence of steps succeeds
exactly where each of them does, so runs are taken apart and put together one step at a time.
-/

namespace RecordQuery

namespace Grammar

@[simp]
theorem afterBlanks_space (text : List Char) : afterBlanks (' ' :: text) = afterBlanks text := rfl

theorem afterBlanks_cons {c : Char} (h : Text.isBlank c = false) (text : List Char)
    : afterBlanks (c :: text) = c :: text := by
  simp [afterBlanks, h]

@[simp]
theorem afterBlanks_afterBlanks (text : List Char)
    : afterBlanks (afterBlanks text) = afterBlanks text :=
  Text.dropWhile_of_head? (Text.head?_dropWhile_eq_false Text.isBlank text)

theorem isBlank_of_afterBlanks {text rest : List Char} {c : Char}
    (h : afterBlanks text = c :: rest)
    : Text.isBlank c = false :=
  Text.head?_dropWhile_eq_false Text.isBlank text c (by
    rw [show text.dropWhile Text.isBlank = c :: rest from h]
    rfl)

/-- Behind the longest row of identifier characters a word ends. -/
theorem endsWord_drop_takeWhile (text : List Char)
    : EndsWord (text.drop (text.takeWhile Text.isWordChar).length) := by
  rw [Text.drop_length_takeWhile]
  exact Text.stops_dropWhile Text.isWordChar text

end Grammar

namespace Scanner

@[simp]
theorem rest_advance (s : Scanner) (count : Nat) : (s.advance count).rest = s.rest.drop count := rfl

@[simp]
theorem joins_advance (s : Scanner) (count : Nat) : (s.advance count).joins = s.joins := rfl

@[simp]
theorem joins_skipBlanks (s : Scanner) : s.skipBlanks.joins = s.joins := rfl

@[simp]
theorem rest_skipBlanks (s : Scanner) : s.skipBlanks.rest = Grammar.afterBlanks s.rest := by
  rw [skipBlanks, rest_advance, Text.drop_length_takeWhile, Grammar.afterBlanks]

/-- What comes next behind white space. -/
theorem peek?_skipBlanks (s : Scanner)
    : s.skipBlanks.peek? = (Grammar.afterBlanks s.rest).head? := by
  rw [peek?, rest_skipBlanks]

@[simp]
theorem skipBlanks_skipBlanks (s : Scanner) : s.skipBlanks.skipBlanks = s.skipBlanks := by
  have nothing : (Grammar.afterBlanks s.rest).takeWhile Text.isBlank = [] := by
    cases start : Grammar.afterBlanks s.rest with
    | nil => rfl
    | cons c rest =>
        exact List.takeWhile_cons_of_neg (by simp [Grammar.isBlank_of_afterBlanks start])
  rw [skipBlanks.eq_def s.skipBlanks, rest_skipBlanks, nothing]
  rfl

end Scanner

namespace Scan

variable {α β : Type}

/-- Two steps succeed where the first one does and the second one does from there. -/
theorem run_bind_eq_ok {p : Scan α} {f : α → Scan β} {s : Scanner} {result : β × Scanner}
    : (p >>= f).run s = .ok result ↔ ∃ a m, p.run s = .ok (a, m) ∧ (f a).run m = .ok result := by
  rw [StateT.run_bind]
  cases p.run s with
  | error error => simp [bind, Except.bind]
  | ok first =>
      constructor
      · intro h
        exact ⟨first.1, first.2, rfl, h⟩
      · intro held
        obtain ⟨_, _, same, h⟩ := held
        cases same
        exact h

/-- After a first step that succeeds, the others run from where it ends. -/
theorem run_bind_of_ok {p : Scan α} {f : α → Scan β} {s m : Scanner} {a : α}
    (h : p.run s = .ok (a, m))
    : (p >>= f).run s = (f a).run m := by
  rw [StateT.run_bind, h]
  rfl

@[simp]
theorem run_pure (a : α) (s : Scanner) : (pure a : Scan α).run s = .ok (a, s) := rfl

@[simp]
theorem run_get (s : Scanner) : (get : Scan Scanner).run s = .ok (s, s) := rfl

@[simp]
theorem run_set (s m : Scanner) : (set m : Scan PUnit).run s = .ok (⟨⟩, m) := rfl

@[simp]
theorem run_advance (count : Nat) (s : Scanner)
    : (advance count).run s = .ok ((), s.advance count) := rfl

@[simp]
theorem run_skipBlanks (s : Scanner) : skipBlanks.run s = .ok ((), s.skipBlanks) := rfl

@[simp]
theorem run_peek? (s : Scanner) : peek?.run s = .ok (s.peek?, s) := rfl

@[simp]
theorem run_peekWord (s : Scanner) : peekWord.run s = .ok (s.skipBlanks.word, s.skipBlanks) := rfl

@[simp]
theorem run_fail (error : ParseError) (s : Scanner)
    : (fail error : Scan α).run s = .error (.parse error) := rfl

@[simp]
theorem run_reject (error : Unsupported) (s : Scanner)
    : (reject error : Scan α).run s = .error (.unsupported error) := rfl

/-- A mark is taken exactly where it comes next behind white space. -/
theorem run_expect_eq_ok {mark : Char} {s s' : Scanner}
    : (expect mark).run s = .ok ((), s')
      ↔ s.skipBlanks.peek? = some mark ∧ s.skipBlanks.advance 1 = s' := by
  rw [expect, run_bind_of_ok (run_skipBlanks s), run_bind_of_ok (run_get _)]
  cases s.skipBlanks.peek? with
  | none => simp
  | some c =>
      by_cases same : c = mark
      · simp [same]
      · simp [same]

theorem run_expect {mark : Char} {s : Scanner} {rest : List Char}
    (h : Grammar.Mark mark s.rest rest)
    : ∃ s', (expect mark).run s = .ok ((), s') ∧ s'.rest = rest ∧ s'.joins = s.joins := by
  have left : Grammar.afterBlanks s.rest = mark :: rest := h
  refine ⟨s.skipBlanks.advance 1, run_expect_eq_ok.mpr ⟨?_, rfl⟩, ?_, rfl⟩
  · simp [Scanner.peek?, left]
  · simp [left]

theorem mark_of_run_expect {mark : Char} {s s' : Scanner}
    (h : (expect mark).run s = .ok ((), s'))
    : Grammar.Mark mark s.rest s'.rest ∧ s'.joins = s.joins := by
  obtain ⟨next, rfl⟩ := run_expect_eq_ok.mp h
  refine ⟨?_, rfl⟩
  obtain ⟨rest, left⟩ := List.head?_eq_some_iff.mp next
  rw [Scanner.rest_skipBlanks] at left
  simp [Grammar.Mark, left]

/-- A keyword is taken if it is the next whole word. -/
theorem run_takeKeyword (keyword : List Char) (s : Scanner)
    : (takeKeyword keyword).run s
      = if s.skipBlanks.word = keyword then .ok (true, s.skipBlanks.advance keyword.length)
        else .ok (false, s.skipBlanks) := by
  rw [takeKeyword, run_bind_of_ok (run_peekWord s)]
  split
  · rw [run_bind_of_ok (run_advance ..), run_pure]
  · rw [run_pure]

/-- A join is counted while there are some left. -/
theorem run_takeJoin_eq_ok {s s' : Scanner}
    : takeJoin.run s = .ok ((), s') ↔ s'.rest = s.rest ∧ s'.joins + 1 = s.joins
      ∧ s'.position = s.position := by
  obtain ⟨rest, position, joins⟩ := s
  obtain ⟨rest', position', joins'⟩ := s'
  rw [takeJoin, run_bind_of_ok (run_get _)]
  cases joins with
  | zero => simp
  | succ joins =>
      simp only [run_set, Except.ok.injEq, Prod.mk.injEq, Scanner.mk.injEq, true_and,
        Nat.add_right_cancel_iff]
      constructor
      · intro held
        obtain ⟨rfl, rfl, rfl⟩ := held
        exact ⟨rfl, rfl, rfl⟩
      · intro held
        obtain ⟨rfl, rfl, rfl⟩ := held
        exact ⟨rfl, rfl, rfl⟩

-----------------------------------------------------------------------------------------
-- What it means that a reader reads a phrase
-----------------------------------------------------------------------------------------

open Grammar

/-- A reader takes only what a phrase spells, and no join. -/
def IsSound (reader : Scan α) (phrase : Phrase α) : Prop :=
  ∀ ⦃s s' : Scanner⦄ ⦃a : α⦄, reader.run s = .ok (a, s')
    → phrase a s.rest s'.rest ∧ s'.joins = s.joins

/-- A reader takes what a phrase spells in front of the texts that may follow, and no join. -/
def IsComplete (follows : List Char → Prop) (reader : Scan α) (phrase : Phrase α) : Prop :=
  ∀ ⦃s : Scanner⦄ ⦃a : α⦄ ⦃rest : List Char⦄, phrase a s.rest rest → follows rest
    → ∃ s', reader.run s = .ok (a, s') ∧ s'.rest = rest ∧ s'.joins = s.joins

/-- White space in front of a phrase does not matter. -/
def IgnoresBlanks (phrase : Phrase α) : Prop :=
  ∀ ⦃a : α⦄ ⦃text text' rest : List Char⦄, afterBlanks text = afterBlanks text'
    → phrase a text rest → phrase a text' rest

/-- A phrase starts with an opening parenthesis. -/
def Opens (phrase : Phrase α) : Prop :=
  ∀ (a : α) (text rest : List Char), phrase a text rest → (afterBlanks text).head? = some '('

theorem ignoresBlanks_word {word : String} {text text' rest : List Char}
    (same : afterBlanks text = afterBlanks text') (h : Word word text rest)
    : Word word text' rest :=
  ⟨same ▸ h.1, h.2⟩

end Scan

end RecordQuery
