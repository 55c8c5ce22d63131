import RecordQuery.Proofs.Filter.OctetReader
import RecordQuery.Proofs.Filter.Positions

/-! The steps of the octet reader. A count of octets that falls between two characters parts the
text in exactly one way, so at such a count the octet reader sees what the reader of characters
sees. Where both are at one place, each step of the one is a step of the other.
-/

namespace RecordQuery

namespace Text

-----------------------------------------------------------------------------------------
-- Counts of octets that fall between two characters
-----------------------------------------------------------------------------------------

@[simp]
theorem octetCount_nil : octetCount [] = 0 := rfl

theorem octetCount_append (before after : List Char)
    : octetCount (before ++ after) = octetCount before + octetCount after := by
  rw [octetCount, octets_append, List.length_append]
  rfl

theorem octetCount_cons (c : Char) (rest : List Char)
    : octetCount (c :: rest) = octetCount [c] + octetCount rest :=
  octetCount_append [c] rest

theorem octetCount_pos (c : Char) : 0 < octetCount [c] := by
  rw [octetCount, octets, List.flatMap_singleton, String.length_utf8EncodeChar]
  exact c.utf8Size_pos

theorem octetCount_eq_zero_iff {chars : List Char} : octetCount chars = 0 ↔ chars = [] := by
  cases chars with
  | nil => simp
  | cons c rest =>
      have pos := octetCount_pos c
      rw [octetCount_cons]
      simp only [reduceCtorEq, iff_false]
      omega

/-- A text stands in another one behind so many octets. -/
def StandsAt (text : List Char) (position : Nat) (part : List Char) : Prop :=
  ∃ before after, text = before ++ (part ++ after) ∧ octetCount before = position

/-- A count of octets falls between two characters of a text, or at either end of it. -/
def IsBoundary (text : List Char) (position : Nat) : Prop :=
  StandsAt text position []

theorem isBoundary_iff {text : List Char} {position : Nat}
    : IsBoundary text position
      ↔ ∃ before after, text = before ++ after ∧ octetCount before = position := by
  simp only [IsBoundary, StandsAt, List.nil_append]

theorem IsBoundary.le {text : List Char} {position : Nat} (h : IsBoundary text position)
    : position ≤ octetCount text := by
  obtain ⟨before, after, rfl, rfl⟩ := isBoundary_iff.mp h
  rw [octetCount_append]
  exact Nat.le_add_right ..

theorem StandsAt.isBoundary {text part : List Char} {position : Nat}
    (h : StandsAt text position part)
    : IsBoundary text position := by
  obtain ⟨before, after, split, count⟩ := h
  exact isBoundary_iff.mpr ⟨before, part ++ after, split, count⟩

/-- A text is parted in one way only, by induction on the part in front. -/
theorem partOctets?_append (before after : List Char)
    : partOctets? (before ++ after) (octetCount before) = some (before, after) := by
  induction before with
  | nil => rw [octetCount_nil, partOctets?.eq_def, List.nil_append]
  | cons c before ih =>
      have pos := octetCount_pos c
      obtain ⟨count, whole⟩ : ∃ count, octetCount (c :: before) = count + 1 :=
        Nat.exists_eq_add_one.mpr (by rw [octetCount_cons]; omega)
      have left : count + 1 - octetCount [c] = octetCount before := by
        rw [← whole, octetCount_cons, Nat.add_sub_cancel_left]
      have enough : octetCount [c] ≤ count + 1 := by
        rw [← whole, octetCount_cons c before]
        exact Nat.le_add_right ..
      rw [whole, List.cons_append, partOctets?, if_pos enough, left, ih]
      rfl

/-- Where two texts in a row are parted behind as many octets, they are the same two. -/
theorem parts_unique {before after front back : List Char} (h : before ++ after = front ++ back)
    (count : octetCount before = octetCount front)
    : before = front ∧ after = back := by
  have parted := partOctets?_append before after
  rw [h, count, partOctets?_append, Option.some.injEq, Prod.mk.injEq] at parted
  exact ⟨parted.1.symm, parted.2.symm⟩

theorem append_of_partOctets? {text before after : List Char} {position : Nat}
    (h : partOctets? text position = some (before, after))
    : text = before ++ after ∧ octetCount before = position := by
  fun_induction partOctets? text position generalizing before after with
  | case1 text =>
      cases h
      exact ⟨rfl, rfl⟩
  | case2 => cases h
  | case3 c rest count enough ih =>
      obtain ⟨⟨front, back⟩, found, same⟩ := Option.map_eq_some_iff.mp h
      cases same
      obtain ⟨rfl, octets⟩ := ih found
      exact ⟨rfl, by rw [octetCount_cons, octets]; omega⟩
  | case4 => cases h

theorem isSome_partOctets?_iff {text : List Char} {position : Nat}
    : (partOctets? text position).isSome ↔ IsBoundary text position := by
  rw [isBoundary_iff]
  constructor
  · intro found
    obtain ⟨⟨before, after⟩, found⟩ := Option.isSome_iff_exists.mp found
    exact ⟨before, after, append_of_partOctets? found⟩
  · rintro ⟨before, after, rfl, rfl⟩
    rw [partOctets?_append]
    rfl

/-- A slice between two boundaries is what stands there. -/
theorem slice?_append (before part after : List Char)
    : slice? (before ++ (part ++ after)) (octetCount before) (octetCount before + octetCount part)
      = some part := by
  rw [slice?, if_pos (Nat.le_add_right ..), partOctets?_append]
  dsimp only [bind, Option.bind]
  rw [Nat.add_sub_cancel_left, partOctets?_append]
  rfl

theorem slice?_eq_some_iff {text found : List Char} {start stop : Nat}
    : slice? text start stop = some found
      ↔ ∃ before after, text = before ++ (found ++ after) ∧ octetCount before = start
        ∧ octetCount before + octetCount found = stop := by
  constructor
  · intro h
    unfold slice? at h
    split at h
    · next ordered =>
        obtain ⟨⟨before, rest⟩, parted, h⟩ := Option.bind_eq_some_iff.mp h
        obtain ⟨⟨part, after⟩, parted', h⟩ := Option.bind_eq_some_iff.mp h
        cases h
        obtain ⟨rfl, count⟩ := append_of_partOctets? parted
        obtain ⟨rfl, count'⟩ := append_of_partOctets? parted'
        exact ⟨before, after, rfl, count, by omega⟩
    · cases h
  · intro held
    obtain ⟨before, after, rfl, rfl, rfl⟩ := held
    exact slice?_append before found after

/-- There is a slice between two boundaries in their order. -/
theorem isSome_slice?_iff {text : List Char} {start stop : Nat}
    : (slice? text start stop).isSome
      ↔ start ≤ stop ∧ IsBoundary text start ∧ IsBoundary text stop := by
  rw [isBoundary_iff, isBoundary_iff, Option.isSome_iff_exists]
  simp only [slice?_eq_some_iff]
  constructor
  · intro held
    obtain ⟨found, before, after, rfl, rfl, rfl⟩ := held
    exact ⟨Nat.le_add_right .., ⟨before, found ++ after, rfl, rfl⟩,
      ⟨before ++ found, after, by rw [List.append_assoc], octetCount_append before found⟩⟩
  · intro held
    obtain ⟨ordered, ⟨before, rest, split, rfl⟩, ⟨before', after, split', rfl⟩⟩ := held
    rcases List.append_eq_append_iff.mp (split.symm.trans split') with
      ⟨part, rfl, rfl⟩ | ⟨part, rfl, rfl⟩
    · exact ⟨part, before, after, split, rfl, (octetCount_append before part).symm⟩
    · -- the second part in front is no longer than the first one, so they are the same
      have nothing : part = [] := by
        rw [octetCount_append] at ordered
        exact octetCount_eq_zero_iff.mp (by omega)
      subst nothing
      exact ⟨[], before', rest, by simp [split'], by simp, by simp⟩

/-- In front of the first character without a property stands the run of those with it. -/
theorem findOctet?_not (p : Char → Bool) (text : List Char)
    : (findOctet? (fun c => !p c) text).getD (octetCount text) = octetCount (text.takeWhile p) := by
  induction text with
  | nil => rfl
  | cons c rest ih =>
      cases held : p c with
      | false => simp [findOctet?, held]
      | true =>
          rw [List.takeWhile_cons_of_pos held, octetCount_cons c (rest.takeWhile p), ← ih,
            octetCount_cons]
          cases found : findOctet? (fun c => !p c) rest with
          | none => simp [findOctet?, held, found]
          | some count => simp [findOctet?, held, found]

end Text

-----------------------------------------------------------------------------------------
-- Places that both readers have
-----------------------------------------------------------------------------------------

/-- The place is one of a text: what is left stands behind the octets before it. -/
structure Scanner.IsIn (text : List Char) (s : Scanner) : Prop where
  split : ∃ before, text = before ++ s.rest ∧ s.position = Text.octetCount before
  joins : s.joins ≤ Scan.maxJoins

/-- The place as the octet reader has it, with the parentheses that are open. -/
def Scanner.cursor (s : Scanner) (depth : Nat) : Cursor :=
  ⟨s.position, depth, Scan.maxJoins - s.joins⟩

namespace Scanner

variable {text : List Char} {s s' : Scanner}

@[simp]
theorem position_cursor (s : Scanner) (depth : Nat) : (s.cursor depth).position = s.position := rfl

theorem IsIn.of_reaches (h : s.IsIn text) (reached : s.Reaches s') (joins : s'.joins ≤ s.joins)
    : s'.IsIn text := by
  obtain ⟨before, split, count⟩ := h.split
  obtain ⟨taken, rest, position⟩ := reached
  refine ⟨⟨before ++ taken, by rw [split, rest, List.append_assoc], ?_⟩,
    Nat.le_trans joins h.joins⟩
  rw [position, count, Text.octetCount_append]

theorem IsIn.advance (h : s.IsIn text) (count : Nat) : (s.advance count).IsIn text :=
  h.of_reaches (s.reaches_advance count) (Nat.le_refl _)

theorem IsIn.skipBlanks (h : s.IsIn text) : s.skipBlanks.IsIn text :=
  h.advance _

theorem IsIn.octets_le (h : s.IsIn text) : s.position + Text.octetCount s.rest
    = Text.octetCount text := by
  obtain ⟨before, split, count⟩ := h.split
  rw [split, Text.octetCount_append, count]

theorem IsIn.octets_lt (h : s.IsIn text) : Text.octetCount s.rest < Reading.stepsFor text := by
  have whole := h.octets_le
  unfold Reading.stepsFor
  omega

/-- What is shown from a place of a text stands in the text. -/
theorem IsIn.standsAt (h : s.IsIn text) {position : Nat} {part : List Char}
    (shown : s.Shows position part)
    : Text.StandsAt text position part := by
  obtain ⟨place, reached, rfl, after, start⟩ := shown
  obtain ⟨before, split, count⟩ := h.split
  obtain ⟨taken, rest, position⟩ := reached
  refine ⟨before ++ taken, after, ?_, ?_⟩
  · rw [split, rest, start, List.append_assoc]
  · rw [position, count, Text.octetCount_append]

/-- No more is left at a place ahead. -/
theorem Reaches.fewer (reached : s.Reaches s')
    : Text.octetCount s'.rest ≤ Text.octetCount s.rest ∧ s'.rest.length ≤ s.rest.length := by
  obtain ⟨taken, split, _⟩ := reached
  rw [split, Text.octetCount_append, List.length_append]
  exact ⟨Nat.le_add_left .., Nat.le_add_left ..⟩

/-- Behind a character there is less left. -/
theorem fewer_advance_one {c : Char} (first : s.peek? = some c)
    : Text.octetCount (s.advance 1).rest < Text.octetCount s.rest
        ∧ (s.advance 1).rest.length < s.rest.length := by
  obtain ⟨rest, split⟩ := List.head?_eq_some_iff.mp first
  have pos := Text.octetCount_pos c
  rw [Scanner.rest_advance, split, List.drop_one, List.tail_cons, Text.octetCount_cons,
    List.length_cons]
  omega

theorem advance_advance (s : Scanner) (m n : Nat)
    : (s.advance m).advance n = s.advance (m + n) := by
  simp only [Scanner.advance, List.drop_drop, Scanner.mk.injEq, true_and, and_true]
  rw [Nat.add_assoc, ← Text.octetCount_append, ← List.take_add]

theorem advance_zero (s : Scanner) : s.advance 0 = s := by
  simp [Scanner.advance]

theorem advance_of_nil (h : s.rest = []) (count : Nat) : s.advance count = s := by
  obtain ⟨rest, position, joins⟩ := s
  subst h
  simp [Scanner.advance]

/-- Where no white space stands there is none to be skipped. -/
theorem skipBlanks_of_peek? {c : Char} (first : s.peek? = some c) (solid : Text.isBlank c = false)
    : s.skipBlanks = s := by
  obtain ⟨rest, start⟩ := List.head?_eq_some_iff.mp first
  rw [Scanner.skipBlanks, start, List.takeWhile_cons_of_neg (by simp [solid]), List.length_nil,
    advance_zero]

end Scanner

namespace Reading

variable {α β : Type} {text : List Char} {depth : Nat} {s s' : Scanner}

-----------------------------------------------------------------------------------------
-- Runs of steps
-----------------------------------------------------------------------------------------

/-- After a first step that succeeds, the others run from where it ends. -/
theorem run_bind_of_ok {p : Reading α} {f : α → Reading β} {c m : Cursor} {a : α}
    (h : p.run c = .ok (a, m))
    : (p >>= f).run c = (f a).run m := by
  rw [StateT.run_bind, h]
  rfl

/-- After a first step that stops, nothing else is run. -/
theorem run_bind_of_error {p : Reading α} {f : α → Reading β} {c : Cursor} {stop : Stop}
    (h : p.run c = .error stop)
    : (p >>= f).run c = .error stop := by
  rw [StateT.run_bind, h]
  rfl

@[simp]
theorem run_pure (a : α) (c : Cursor) : (pure a : Reading α).run c = .ok (a, c) := rfl

@[simp]
theorem run_get (c : Cursor) : (get : Reading Cursor).run c = .ok (c, c) := rfl

theorem run_slice {before part after : List Char} (split : text = before ++ (part ++ after))
    (c : Cursor)
    : (slice text (Text.octetCount before) (Text.octetCount before + Text.octetCount part)).run c
      = .ok (part, c) := by
  rw [slice, split, Text.slice?_append]
  rfl

theorem run_remaining (h : s.IsIn text)
    : (remaining text).run (s.cursor depth) = .ok (s.rest, s.cursor depth) := by
  obtain ⟨before, split, count⟩ := h.split
  have whole : Text.octetCount text = Text.octetCount before + Text.octetCount s.rest := by
    rw [split, Text.octetCount_append]
  rw [remaining, run_bind_of_ok (run_get _), Scanner.cursor, count, whole]
  exact run_slice (by rw [List.append_nil]; exact split) _

theorem run_isAtEnd (h : s.IsIn text)
    : (isAtEnd text).run (s.cursor depth) = .ok (s.rest.isEmpty, s.cursor depth) := by
  have whole := h.octets_le
  rw [isAtEnd, run_bind_of_ok (run_get _), run_pure]
  congr 2
  rw [Bool.eq_iff_iff, decide_eq_true_eq, Scanner.cursor, ← whole]
  cases s.rest with
  | nil => simp
  | cons c rest =>
      have pos := Text.octetCount_pos c
      rw [Text.octetCount_cons, List.isEmpty_cons]
      simp only [Bool.false_eq_true, iff_false]
      omega

theorem run_peek (h : s.IsIn text)
    : (peek text).run (s.cursor depth) = .ok (s.peek?, s.cursor depth) := by
  rw [peek, run_bind_of_ok (run_remaining h), run_pure]
  rfl

/-- The cursor may be put at every place of the text. -/
theorem run_moveTo (h : s'.IsIn text) (joins : s'.joins = s.joins)
    : (moveTo text s'.position).run (s.cursor depth) = .ok ((), s'.cursor depth) := by
  obtain ⟨before, split, count⟩ := h.split
  have boundary : (Text.partOctets? text s'.position).isSome :=
    Text.isSome_partOctets?_iff.mpr (Text.isBoundary_iff.mpr ⟨before, s'.rest, split, count.symm⟩)
  rw [moveTo, if_pos boundary, Scanner.cursor, Scanner.cursor, joins]
  rfl

/-- The octets of what stands at the cursor lead behind it. -/
theorem run_advance (h : s.IsIn text) {taken rest : List Char} (split : s.rest = taken ++ rest)
    : (advance text (Text.octetCount taken)).run (s.cursor depth)
      = .ok ((), (s.advance taken.length).cursor depth) := by
  have octets : s.position + Text.octetCount taken = (s.advance taken.length).position := by
    rw [Scanner.advance, split, List.take_left]
  rw [advance, run_bind_of_ok (run_get _)]
  change (moveTo text (s.position + Text.octetCount taken)).run (s.cursor depth) = _
  rw [octets]
  exact run_moveTo (h.advance _) rfl

theorem run_advance_char (h : s.IsIn text) {c : Char} {rest : List Char} (split : s.rest = c :: rest)
    : (advance text (Text.octetCount [c])).run (s.cursor depth)
      = .ok ((), (s.advance 1).cursor depth) :=
  run_advance h (show s.rest = [c] ++ rest from split)

theorem run_advance_one (h : s.IsIn text) {c : Char} (first : s.peek? = some c)
    (small : Text.octetCount [c] = 1)
    : (advance text 1).run (s.cursor depth) = .ok ((), (s.advance 1).cursor depth) := by
  obtain ⟨rest, split⟩ := List.head?_eq_some_iff.mp first
  rw [← run_advance_char h split, small]

theorem run_bump (h : s.IsIn text)
    : (bump text).run (s.cursor depth) = .ok (s.peek?, (s.advance 1).cursor depth) := by
  rw [bump, run_bind_of_ok (run_peek h)]
  cases first : s.peek? with
  | none =>
      rw [Scanner.advance_of_nil (List.head?_eq_none_iff.mp first)]
      rfl
  | some c =>
      obtain ⟨rest, split⟩ := List.head?_eq_some_iff.mp first
      exact (run_bind_of_ok (run_advance_char h split)).trans rfl

/-- Behind a loop over characters with a property comes the first one without it, by induction on
the steps: each takes a character, so there are more of them than octets left.
-/
theorem run_skipWhile {p : Char → Bool} {width : Char → Nat}
    (fits : ∀ c, p c = true → width c = Text.octetCount [c]) (h : s.IsIn text) {steps : Nat}
    (enough : Text.octetCount s.rest < steps)
    : (skipWhile text p width steps).run (s.cursor depth)
      = .ok ((), (s.advance (s.rest.takeWhile p).length).cursor depth) := by
  induction steps generalizing s with
  | zero => exact absurd enough (Nat.not_lt_zero _)
  | succ steps ih =>
      rw [skipWhile, run_bind_of_ok (run_peek h), Scanner.peek?]
      cases start : s.rest with
      | nil =>
          rw [List.takeWhile_nil, List.length_nil, Scanner.advance_zero]
          rfl
      | cons c rest =>
          cases held : p c with
          | false =>
              rw [List.takeWhile_cons_of_neg (by simp [held]), List.length_nil,
                Scanner.advance_zero, List.head?_cons, Option.filter_some, held]
              rfl
          | true =>
              have left : (s.advance 1).rest = rest := by rw [Scanner.rest_advance, start]; rfl
              have pos := Text.octetCount_pos c
              rw [start, Text.octetCount_cons] at enough
              rw [List.head?_cons, Option.filter_some, if_pos held]
              dsimp only
              rw [fits c held, run_bind_of_ok (run_advance_char h start),
                ih (h.advance 1) (by rw [left]; omega), left, Scanner.advance_advance,
                List.takeWhile_cons_of_pos held, List.length_cons, Nat.add_comm 1]

theorem run_skipBlanks (h : s.IsIn text)
    : (skipBlanks text).run (s.cursor depth) = .ok ((), s.skipBlanks.cursor depth) :=
  run_skipWhile (fun _ _ => rfl) h h.octets_lt

theorem octetCount_of_isDigit {c : Char} (digit : Text.isDigit c = true)
    : Text.octetCount [c] = 1 := by
  simp only [Text.isDigit, Bool.and_eq_true, decide_eq_true_eq] at digit
  have small : c.val ≤ 0x7F := UInt32.le_trans digit.2 (by decide)
  rw [Text.octetCount, Text.octets, List.flatMap_singleton, String.length_utf8EncodeChar,
    Char.utf8Size]
  exact if_pos small

theorem run_skipDigits (h : s.IsIn text)
    : (skipDigits text).run (s.cursor depth)
      = .ok ((), (s.advance (s.rest.takeWhile Text.isDigit).length).cursor depth) :=
  run_skipWhile (fun _ digit => (octetCount_of_isDigit digit).symm) h h.octets_lt

theorem run_wordHere (h : s.IsIn text)
    : (wordHere text).run (s.cursor depth) = .ok (s.word, s.cursor depth) := by
  have split : s.rest = [] ++ (s.word ++ s.rest.dropWhile Text.isWordChar) :=
    (List.takeWhile_append_dropWhile ..).symm
  have cut := run_slice split (s.cursor depth)
  rw [Text.octetCount_nil, Nat.zero_add] at cut
  rw [wordHere, run_bind_of_ok (run_remaining h)]
  dsimp only
  rw [Text.findOctet?_not]
  exact cut

theorem run_peekWord (h : s.IsIn text)
    : (peekWord text).run (s.cursor depth)
      = .ok (s.skipBlanks.word, s.skipBlanks.cursor depth) := by
  rw [peekWord, run_bind_of_ok (run_skipBlanks h)]
  exact run_wordHere h.skipBlanks

/-- A word at the cursor is passed over by its octets. -/
theorem run_advance_word (h : s.IsIn text)
    : (advance text (Text.octetCount s.word)).run (s.cursor depth)
      = .ok ((), (s.advance s.word.length).cursor depth) :=
  run_advance h (List.takeWhile_append_dropWhile ..).symm

-----------------------------------------------------------------------------------------
-- Two readers of one text
-----------------------------------------------------------------------------------------

/-- An outcome of the reader of characters as the octet reader has it. -/
def ofScan (depth : Nat) : Except QueryError (α × Scanner) → Except Stop (α × Cursor)
  | .ok (a, s) => .ok (a, s.cursor depth)
  | .error error => .error (.error error)

/-- Both readers give the same and stop at the same place of the text, or fail alike. -/
structure Agree (text : List Char) (depth : Nat) (octets : Except Stop (α × Cursor))
    (chars : Except QueryError (α × Scanner))
    : Prop where
  same : octets = ofScan depth chars
  isIn : ∀ a s, chars = .ok (a, s) → s.IsIn text

theorem Agree.ok (h : s.IsIn text) (a : α)
    : Agree text depth (.ok (a, s.cursor depth)) (.ok (a, s)) := by
  refine ⟨rfl, fun b m same => ?_⟩
  cases same
  exact h

theorem Agree.error (error : QueryError)
    : Agree text depth (.error (.error error)) (.error error : Except QueryError (α × Scanner)) :=
  ⟨rfl, fun _ _ same => by cases same⟩

/-- Two steps agree if the second ones do wherever the first ones end. -/
theorem Agree.bind {p : Reading α} {f : α → Reading β} {q : Scan α} {g : α → Scan β} {c : Cursor}
    {inner : Nat} (first : Agree text inner (p.run c) (q.run s))
    (next : ∀ a m, q.run s = .ok (a, m) → m.IsIn text
      → Agree text depth ((f a).run (m.cursor inner)) ((g a).run m))
    : Agree text depth ((p >>= f).run c) ((q >>= g).run s) := by
  obtain ⟨same, isIn⟩ := first
  cases outcome : q.run s with
  | ok result =>
      obtain ⟨a, m⟩ := result
      rw [outcome] at same
      rw [run_bind_of_ok same, Scan.run_bind_of_ok outcome]
      exact next a m outcome (isIn a m outcome)
  | error error =>
      rw [outcome] at same
      rw [run_bind_of_error same, StateT.run_bind, outcome]
      exact .error error

/-- An octet reader does what a reader of characters does, at every place of the text and under so
many open parentheses.
-/
def Follows (text : List Char) (depth : Nat) (p : Reading α) (q : Scan α) : Prop :=
  ∀ s : Scanner, s.IsIn text → Agree text depth (p.run (s.cursor depth)) (q.run s)

theorem Follows.bind {p : Reading α} {f : α → Reading β} {q : Scan α} {g : α → Scan β}
    (first : Follows text depth p q) (next : ∀ a, Follows text depth (f a) (g a))
    : Follows text depth (p >>= f) (q >>= g) :=
  fun s h => (first s h).bind fun a m _ isIn => next a m isIn

theorem follows_pure (a : α) : Follows text depth (pure a) (pure a) :=
  fun _ h => .ok h a

theorem follows_fail (error : ParseError)
    : Follows text depth (fail error : Reading α) (Scan.fail error) :=
  fun _ _ => .error _

theorem follows_reject (error : Unsupported)
    : Follows text depth (reject error : Reading α) (Scan.reject error) :=
  fun _ _ => .error _

theorem follows_skipBlanks : Follows text depth (skipBlanks text) Scan.skipBlanks := by
  intro s h
  rw [run_skipBlanks h]
  exact .ok h.skipBlanks ()

theorem follows_peekWord : Follows text depth (peekWord text) Scan.peekWord := by
  intro s h
  rw [run_peekWord h]
  exact .ok h.skipBlanks s.skipBlanks.word

theorem follows_expect (mark : Char)
    : Follows text depth (expect text mark) (Scan.expect mark) := by
  refine follows_skipBlanks.bind fun _ s h => ?_
  rw [run_bind_of_ok (run_peek h), Scan.run_bind_of_ok (Scan.run_get s)]
  cases first : s.peek? with
  | none => exact .error _
  | some c =>
      obtain ⟨rest, split⟩ := List.head?_eq_some_iff.mp first
      dsimp only
      split
      · rw [run_advance_char h split]
        exact .ok (h.advance 1) ()
      · exact .error _

theorem follows_takeKeyword (keyword : List Char)
    : Follows text depth (takeKeyword text keyword) (Scan.takeKeyword keyword) := by
  intro s h
  rw [takeKeyword, run_bind_of_ok (run_peekWord h), Scan.run_takeKeyword]
  split
  · next same =>
      rw [← same, run_bind_of_ok (run_advance_word h.skipBlanks)]
      exact .ok (h.skipBlanks.advance _) true
  · exact .ok h.skipBlanks false

end Reading

end RecordQuery
