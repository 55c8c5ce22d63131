import RecordQuery.Proofs.Filter.OctetSteps

/-! Operands on octets. Quoted texts, numbers and paths are read by loops that look one character
ahead, and take what the reader of characters takes at once. So operands and arguments are read
alike under any number of parentheses, and the recursion has a level for each of them.
-/

namespace RecordQuery.Reading

variable {α : Type} {text : List Char} {depth : Nat} {s : Scanner}

-----------------------------------------------------------------------------------------
-- Quoted texts
-----------------------------------------------------------------------------------------

theorem quotedBody?_double (rest : List Char)
    : Scan.quotedBody? ('\'' :: '\'' :: rest)
      = (Scan.quotedBody? rest).map (fun (body, after) => ('\'' :: body, after)) := rfl

theorem quotedBody?_close {rest : List Char} (single : rest.head? ≠ some '\'')
    : Scan.quotedBody? ('\'' :: rest) = some ([], rest) := by
  cases rest with
  | nil => rfl
  | cons c rest =>
      have other : c ≠ '\'' := fun same => single (congrArg some same)
      simp [Scan.quotedBody?, other]

theorem quotedBody?_other {c : Char} (other : c ≠ '\'') (rest : List Char)
    : Scan.quotedBody? (c :: rest)
      = (Scan.quotedBody? rest).map (fun (body, after) => (c :: body, after)) := by
  simp [Scan.quotedBody?, other]

theorem length_of_quotedBody? {chars body after : List Char}
    (h : Scan.quotedBody? chars = some (body, after))
    : after.length < chars.length := by
  obtain ⟨rfl, _⟩ := Scan.doubled_of_quotedBody? h
  simp only [List.length_append, List.length_cons]
  omega

/-- What is read of a quoted text from a place behind its opening quote. -/
def bodyOutcome (start : Nat) (s : Scanner) : Except QueryError (List Char × Scanner) :=
  match Scan.quotedBody? s.rest with
  | some (body, after) => .ok (body, s.advance (s.rest.length - after.length))
  | none => .error (.parse (.unterminatedString start))

/-- A character is put in front of what is read behind it. -/
theorem run_cons_quotedBody {p : Reading (List Char)} {start count : Nat} {c : Char}
    {m : Cursor} (later : p.run m = ofScan depth (bodyOutcome start (s.advance count)))
    (taken : Scan.quotedBody? s.rest
      = (Scan.quotedBody? (s.rest.drop count)).map (fun (body, after) => (c :: body, after)))
    (enough : count ≤ s.rest.length)
    : (do return c :: (← p) : Reading (List Char)).run m = ofScan depth (bodyOutcome start s) := by
  rw [bodyOutcome, Scanner.rest_advance] at later
  rw [bodyOutcome, taken]
  cases found : Scan.quotedBody? (s.rest.drop count) with
  | none =>
      rw [found] at later
      exact run_bind_of_error later
  | some result =>
      obtain ⟨body, after⟩ := result
      have shorter := length_of_quotedBody? found
      rw [List.length_drop] at shorter
      have total
          : count + (s.rest.length - count - after.length) = s.rest.length - after.length := by
        omega
      rw [found] at later
      dsimp only at later
      rw [Scanner.advance_advance, List.length_drop, total] at later
      exact (run_bind_of_ok later).trans rfl

/-- A quoted text is read to the first quote that is not doubled, by induction on the steps. -/
theorem run_quotedBody (h : s.IsIn text) (start : Nat) {steps : Nat}
    (enough : Text.octetCount s.rest < steps)
    : (quotedBody text start steps).run (s.cursor depth) = ofScan depth (bodyOutcome start s) := by
  induction steps generalizing s with
  | zero => exact absurd enough (Nat.not_lt_zero _)
  | succ steps ih =>
      rw [quotedBody, run_bind_of_ok (run_bump h), Scanner.peek?]
      cases left : s.rest with
      | nil =>
          rw [bodyOutcome, left]
          rfl
      | cons c rest =>
          have behind : (s.advance 1).rest = rest := by
            rw [Scanner.rest_advance, left]
            rfl
          have pos := Text.octetCount_pos c
          rw [left, Text.octetCount_cons] at enough
          rw [List.head?_cons]
          dsimp only
          by_cases quote : c = '\''
          · subst quote
            rw [if_pos rfl, run_bind_of_ok (run_peek (h.advance 1)), Scanner.peek?, behind]
            by_cases doubled : rest.head? = some '\''
            · obtain ⟨more, rfl⟩ := List.head?_eq_some_iff.mp doubled
              have last : ((s.advance 1).advance 1).rest = more := by
                rw [Scanner.rest_advance, behind]
                rfl
              have next : (s.advance 1).peek? = some '\'' := by
                rw [Scanner.peek?, behind]
                rfl
              rw [Text.octetCount_cons '\'' more] at enough
              rw [if_pos doubled, run_bind_of_ok (run_advance_one (h.advance 1) next rfl)]
              have later := ih ((h.advance 1).advance 1) (by rw [last]; omega)
              rw [Scanner.advance_advance] at later ⊢
              refine run_cons_quotedBody later ?_ (by simp [left])
              rw [left]
              exact quotedBody?_double more
            · rw [if_neg doubled, run_pure, bodyOutcome, left, quotedBody?_close doubled]
              simp [ofScan]
          · rw [if_neg quote]
            have later := ih (h.advance 1) (by rw [behind]; omega)
            refine run_cons_quotedBody later ?_ (by simp [left])
            rw [left]
            exact quotedBody?_other quote rest

/-- A quoted text behind white space, as the reader of characters would read it there. -/
def quotedText : Scan String := do
  let start ← get
  Scan.expect '\''
  let inner ← get
  match Scan.quotedBody? inner.rest with
  | some (body, after) =>
    Scan.advance (inner.rest.length - after.length)
    return String.ofList body
  | none => Scan.fail (.unterminatedString start.position)

theorem follows_quoted : Follows text depth (quoted text) quotedText := by
  intro s h
  rw [quoted, run_bind_of_ok (run_get _), quotedText, Scan.run_bind_of_ok (Scan.run_get s)]
  refine (follows_expect '\'' s h).bind fun _ m _ isIn => ?_
  have body : (quotedBody text s.position (stepsFor text)).run (m.cursor depth)
      = ofScan depth (bodyOutcome s.position m) :=
    run_quotedBody isIn s.position isIn.octets_lt
  rw [Scan.run_bind_of_ok (Scan.run_get m)]
  rw [bodyOutcome] at body
  cases found : Scan.quotedBody? m.rest with
  | none =>
      rw [found] at body
      rw [Scanner.position_cursor, run_bind_of_error body]
      exact .error _
  | some result =>
      obtain ⟨chars, after⟩ := result
      rw [found] at body
      rw [Scanner.position_cursor, run_bind_of_ok body]
      exact .ok (isIn.advance _) _

/-- Where the opening quote stands, that is how the reader of characters reads it. -/
theorem run_quotedText (opening : s.peek? = some '\'') : quotedText.run s = Scan.quoted.run s := by
  obtain ⟨rest, left⟩ := List.head?_eq_some_iff.mp opening
  have solid : s.skipBlanks = s := Scanner.skipBlanks_of_peek? opening (by decide)
  have opened : (Scan.expect '\'').run s = .ok ((), s.advance 1) :=
    Scan.run_expect_eq_ok.mpr ⟨by rw [solid]; exact opening, by rw [solid]⟩
  have behind : (s.advance 1).rest = rest := by
    rw [Scanner.rest_advance, left]
    rfl
  rw [quotedText, Scan.run_bind_of_ok (Scan.run_get s), Scan.run_bind_of_ok opened,
    Scan.run_bind_of_ok (Scan.run_get _), behind, Scan.quoted,
    Scan.run_bind_of_ok (Scan.run_get s), left, List.drop_one, List.tail_cons]
  cases found : Scan.quotedBody? rest with
  | none => rfl
  | some result =>
      obtain ⟨chars, after⟩ := result
      have shorter := length_of_quotedBody? found
      have total : 1 + (rest.length - after.length) = ('\'' :: rest).length - after.length := by
        rw [List.length_cons]
        omega
      dsimp only
      rw [Scan.run_bind_of_ok (Scan.run_advance ..), Scan.run_bind_of_ok (Scan.run_advance ..),
        Scanner.advance_advance, total]

theorem agree_quoted (h : s.IsIn text) (opening : s.peek? = some '\'')
    : Agree text depth ((quoted text).run (s.cursor depth)) (Scan.quoted.run s) := by
  rw [← run_quotedText opening]
  exact follows_quoted s h

-----------------------------------------------------------------------------------------
-- Numbers
-----------------------------------------------------------------------------------------

/-- The place behind a character, if it is one of some. -/
def afterAnyOf (marks : List Char) (s : Scanner) : Scanner :=
  if s.peek?.any (· ∈ marks) then s.advance 1 else s

theorem isIn_afterAnyOf (h : s.IsIn text) (marks : List Char) : (afterAnyOf marks s).IsIn text := by
  unfold afterAnyOf
  split
  · exact h.advance 1
  · exact h

/-- Characters of one octet each. -/
def AreNarrow (marks : List Char) : Prop :=
  marks.all (fun c => Text.octetCount [c] == 1) = true

instance (marks : List Char) : Decidable (AreNarrow marks) :=
  inferInstanceAs (Decidable (_ = true))

theorem AreNarrow.octetCount_eq {marks : List Char} (h : AreNarrow marks) {c : Char}
    (member : c ∈ marks)
    : Text.octetCount [c] = 1 :=
  eq_of_beq (List.all_eq_true.mp h c member)

theorem run_takeAnyOf {marks : List Char} (small : AreNarrow marks)
    (h : s.IsIn text)
    : (takeAnyOf text marks).run (s.cursor depth)
      = .ok (s.peek?.any (· ∈ marks), (afterAnyOf marks s).cursor depth) := by
  rw [takeAnyOf, run_bind_of_ok (run_peek h), afterAnyOf]
  cases first : s.peek? with
  | none => rfl
  | some c =>
      rw [Option.any_some]
      by_cases member : c ∈ marks
      · rw [if_pos (by simpa using member), if_pos (by simpa using member),
          run_bind_of_ok (run_advance_one h first (small.octetCount_eq member)), run_pure]
        simp [member]
      · rw [if_neg (by simpa using member), if_neg (by simpa using member), run_pure]
        simp [member]

/-- A mark of a numeral is taken where it stands. -/
theorem run_takeAnyOf_cons {marks : List Char} (small : AreNarrow marks)
    (h : s.IsIn text) {c : Char} {rest : List Char} (left : s.rest = c :: rest) (member : c ∈ marks)
    : (takeAnyOf text marks).run (s.cursor depth) = .ok (true, (s.advance 1).cursor depth) := by
  have found : s.peek?.any (· ∈ marks) = true := by
    rw [Scanner.peek?, left]
    simpa using member
  rw [run_takeAnyOf small h, afterAnyOf, found, if_pos rfl]

theorem run_takeAnyOf_other {marks : List Char} (small : AreNarrow marks)
    (h : s.IsIn text) (other : ∀ c ∈ marks, s.rest.head? ≠ some c)
    : (takeAnyOf text marks).run (s.cursor depth) = .ok (false, s.cursor depth) := by
  have found : s.peek?.any (· ∈ marks) = false := by
    cases first : s.peek? with
    | none => rfl
    | some c => exact decide_eq_false fun member => other c member first
  rw [run_takeAnyOf small h, afterAnyOf, found]
  rfl

/-- The place behind a sign, if there is one. -/
def afterSign (s : Scanner) : Scanner :=
  afterAnyOf ['-'] s

/-- The place behind digits. -/
def afterDigits (s : Scanner) : Scanner :=
  s.advance (s.rest.takeWhile Text.isDigit).length

/-- The place behind a fraction, if there is one. -/
def afterFraction (s : Scanner) : Scanner :=
  s.advance (Numeral.fractionText (Numeral.scanFraction s.rest).1).length

/-- The place behind an exponent, if there is one. -/
def afterExponent (s : Scanner) : Scanner :=
  s.advance (Numeral.exponentText (Numeral.scanExponent s.rest).1).length

theorem run_fraction (h : s.IsIn text)
    : (fraction text).run (s.cursor depth)
      = .ok ((), (afterFraction s).cursor depth) := by
  rw [fraction, afterFraction]
  by_cases point : s.rest.head? = some '.'
  · obtain ⟨more, left⟩ := List.head?_eq_some_iff.mp point
    have behind : (s.advance 1).rest = more := by
      rw [Scanner.rest_advance, left]
      rfl
    rw [run_bind_of_ok (run_takeAnyOf_cons (by decide) h left (by decide)), if_pos rfl,
      run_skipDigits (h.advance 1), behind, left, Scanner.advance_advance, Nat.add_comm]
    rfl
  · rw [run_bind_of_ok (run_takeAnyOf_other (by decide) h (by simpa using point)),
      Numeral.scanFraction_none point, Numeral.fractionText, List.length_nil, Scanner.advance_zero]
    rfl

theorem run_exponent (h : s.IsIn text)
    : (exponent text).run (s.cursor depth)
      = .ok ((), (afterExponent s).cursor depth) := by
  rw [exponent, afterExponent]
  by_cases mark : s.rest.head? = some 'e' ∨ s.rest.head? = some 'E'
  · obtain ⟨c, more, left, isMark⟩ : ∃ c more, s.rest = c :: more ∧ (c = 'e' ∨ c = 'E') := by
      rcases mark with mark | mark
      · obtain ⟨more, left⟩ := List.head?_eq_some_iff.mp mark
        exact ⟨'e', more, left, .inl rfl⟩
      · obtain ⟨more, left⟩ := List.head?_eq_some_iff.mp mark
        exact ⟨'E', more, left, .inr rfl⟩
    have behind : (s.advance 1).rest = more := by
      rw [Scanner.rest_advance, left]
      rfl
    rw [run_bind_of_ok (run_takeAnyOf_cons (by decide) h left (by simpa using isMark)), if_pos rfl]
    by_cases sign : more.head? = some '+' ∨ more.head? = some '-'
    · obtain ⟨d, digits, rfl, isSign⟩ : ∃ d digits, more = d :: digits ∧ (d = '+' ∨ d = '-') := by
        rcases sign with sign | sign
        · obtain ⟨digits, rfl⟩ := List.head?_eq_some_iff.mp sign
          exact ⟨'+', digits, rfl, .inl rfl⟩
        · obtain ⟨digits, rfl⟩ := List.head?_eq_some_iff.mp sign
          exact ⟨'-', digits, rfl, .inr rfl⟩
      have last : ((s.advance 1).advance 1).rest = digits := by
        rw [Scanner.rest_advance, behind]
        rfl
      have scanned : (Numeral.scanExponent s.rest).1
          = some ⟨c, some d, digits.takeWhile Text.isDigit⟩ := by
        rw [left]
        rcases isSign with rfl | rfl
        · simp [Numeral.scanExponent, isMark]
        · simp [Numeral.scanExponent, isMark]
      rw [run_bind_of_ok (run_takeAnyOf_cons (by decide) (h.advance 1) behind
          (by simpa using isSign)), run_skipDigits ((h.advance 1).advance 1), last, scanned,
        Scanner.advance_advance, Scanner.advance_advance]
      simp [Numeral.exponentText, Numeral.Exponent.text, Nat.add_comm]
    · have none : ∀ d ∈ ['+', '-'], (s.advance 1).rest.head? ≠ some d := by
        rw [behind]
        simpa using sign
      have scanned := Numeral.scanExponent_unsigned isMark (fun plus => sign (.inl plus))
        (fun minus => sign (.inr minus))
      rw [run_bind_of_ok (run_takeAnyOf_other (by decide) (h.advance 1) none),
        run_skipDigits (h.advance 1), behind, left, scanned, Scanner.advance_advance]
      simp [Numeral.exponentText, Numeral.Exponent.text, Nat.add_comm]
  · have none : ∀ c ∈ ['e', 'E'], s.rest.head? ≠ some c := by simpa using mark
    rw [run_bind_of_ok (run_takeAnyOf_other (by decide) h none),
      Numeral.scanExponent_none (none 'e' (by decide)) (none 'E' (by decide)),
      Numeral.exponentText, List.length_nil, Scanner.advance_zero]
    rfl

/-- A number with all its parts as the reader of characters reads it: its digits, an end and a value
are looked for in turn.
-/
theorem run_scan_number (s : Scanner)
    : Scan.number.run s
      = if (Numeral.scan s.rest).1.whole.isEmpty then .error (.parse (.expectedDigits s.position))
        else (Scan.numberEnd s.position (Numeral.scan s.rest).1).run
          (Scan.afterSuffix (s.advance (Numeral.scan s.rest).1.text.length)) := by
  rw [Scan.number, Scan.run_bind_of_ok (Scan.run_get s)]
  dsimp only
  split
  · rfl
  · rw [Scan.run_bind_of_ok (Scan.run_advance ..), Scan.run_bind_of_ok (Scan.run_peek? _),
      Scan.afterSuffix]
    split
    · rw [Scan.run_bind_of_ok (Scan.run_advance ..)]
      rfl
    · rfl

/-- A slice from one place to another is what was taken in between. -/
theorem run_slice_advance (h : s.IsIn text) (count : Nat) (c : Cursor)
    : (slice text s.position (s.advance count).position).run c = .ok (s.rest.take count, c) := by
  obtain ⟨before, split, position⟩ := h.split
  have parts : text = before ++ (s.rest.take count ++ s.rest.drop count) := by
    rw [List.take_append_drop]
    exact split
  have cut := run_slice parts c
  rw [← position] at cut
  exact cut

theorem agree_numberEnd {start : Nat} {numeral : Numeral} (h : s.IsIn text)
    (scanned : (Numeral.scan numeral.text).1 = numeral)
    : Agree text depth ((numberEnd text start numeral.text).run (s.cursor depth))
        ((Scan.numberEnd start numeral).run s) := by
  rw [numberEnd, run_bind_of_ok (run_peek h), Scan.numberEnd,
    Scan.run_bind_of_ok (Scan.run_peek? s), scanned]
  dsimp only
  split
  · exact .error _
  · cases Scan.numeralValue? numeral with
    | some value => exact .ok h _
    | none => exact .error _

theorem afterSign_eq (s : Scanner)
    : afterSign s = s.advance (if s.rest.head? = some '-' then ['-'] else []).length := by
  unfold afterSign afterAnyOf Scanner.peek?
  cases left : s.rest with
  | nil => simp [Scanner.advance_zero]
  | cons c rest =>
      by_cases minus : c = '-'
      · simp [minus]
      · simp [minus, Scanner.advance_zero]

theorem rest_afterSign (s : Scanner)
    : (afterSign s).rest = if s.rest.head? = some '-' then s.rest.tail else s.rest := by
  rw [afterSign_eq, Scanner.rest_advance]
  split
  · exact List.drop_one
  · rfl

theorem rest_afterFraction (s : Scanner)
    : (afterFraction s).rest = (Numeral.scanFraction s.rest).2 := by
  rw [afterFraction, Scanner.rest_advance]
  exact List.append_cancel_left
    ((List.prefix_iff_eq_append.mp ⟨_, Numeral.scanFraction_text s.rest⟩).trans
      (Numeral.scanFraction_text s.rest).symm)

theorem scan_eq (s : Scanner)
    : (Numeral.scan s.rest).1
      = ⟨s.rest.head? = some '-', (afterSign s).rest.takeWhile Text.isDigit,
          (Numeral.scanFraction (afterDigits (afterSign s)).rest).1,
          (Numeral.scanExponent (afterFraction (afterDigits (afterSign s))).rest).1⟩ := by
  rw [rest_afterFraction, afterDigits, Scanner.rest_advance, Text.drop_length_takeWhile,
    rest_afterSign, Numeral.scan]

/-- Behind the sign, the digits, the fraction and the exponent the whole numeral has been taken. -/
theorem afterExponent_eq (s : Scanner)
    : afterExponent (afterFraction (afterDigits (afterSign s)))
      = s.advance (Numeral.scan s.rest).1.text.length := by
  rw [scan_eq, Numeral.text_eq, afterExponent, afterFraction, afterDigits]
  simp only [List.length_append, decide_eq_true_eq, ← Scanner.advance_advance, ← afterSign_eq]

/-- The numeral that stands in front of a text is what is scanned of it. -/
theorem scan_scan_text {text : List Char} (nonempty : (Numeral.scan text).1.whole ≠ [])
    : (Numeral.scan (Numeral.scan text).1.text).1 = (Numeral.scan text).1 := by
  have ends : (Numeral.scan text).1.EndsBefore [] := {
    digit := Text.stops_nil _
    point := fun _ _ => by simp
    mark := fun _ => by simp
    sign := fun _ _ _ _ => by simp
  }
  have scanned := (Numeral.isWritten_scan text).scan_append nonempty ends
  rw [List.append_nil] at scanned
  rw [scanned]

/-- The position behind the digits tells whether there are any. -/
theorem position_afterDigits_eq_iff (s : Scanner)
    : (afterDigits (afterSign s)).position = (afterSign s).position
      ↔ (Numeral.scan s.rest).1.whole.isEmpty = true := by
  have taken : (afterSign s).rest.take ((afterSign s).rest.takeWhile Text.isDigit).length
      = (afterSign s).rest.takeWhile Text.isDigit :=
    List.prefix_iff_eq_take.mp (List.takeWhile_prefix _) |>.symm
  rw [scan_eq, List.isEmpty_iff, ← Text.octetCount_eq_zero_iff, afterDigits, Scanner.advance, taken]
  exact Nat.add_eq_left

/-- A number is read in its parts as it is read as a whole. -/
theorem agree_number (h : s.IsIn text)
    : Agree text depth ((number text).run (s.cursor depth)) (Scan.number.run s) := by
  have inSign : (afterSign s).IsIn text := isIn_afterAnyOf h ['-']
  have inDigits : (afterDigits (afterSign s)).IsIn text := inSign.advance _
  have inFraction : (afterFraction (afterDigits (afterSign s))).IsIn text := inDigits.advance _
  have inNumeral := h.advance (Numeral.scan s.rest).1.text.length
  have sign : (takeAnyOf text ['-']).run (s.cursor depth)
      = .ok (s.peek?.any (· ∈ ['-']), (afterSign s).cursor depth) := run_takeAnyOf (by decide) h
  have digits : (skipDigits text).run ((afterSign s).cursor depth)
      = .ok ((), (afterDigits (afterSign s)).cursor depth) := run_skipDigits inSign
  have last : (exponent text).run ((afterFraction (afterDigits (afterSign s))).cursor depth)
      = .ok ((), (s.advance (Numeral.scan s.rest).1.text.length).cursor depth) := by
    rw [← afterExponent_eq]
    exact run_exponent inFraction
  have chars : s.rest.take (Numeral.scan s.rest).1.text.length = (Numeral.scan s.rest).1.text :=
    (List.prefix_iff_eq_take.mp ⟨_, Numeral.scan_text s.rest⟩).symm
  have cut := run_slice_advance h (Numeral.scan s.rest).1.text.length
    ((s.advance (Numeral.scan s.rest).1.text.length).cursor depth)
  rw [chars] at cut
  rw [number, run_bind_of_ok (run_get _), run_bind_of_ok sign, run_bind_of_ok (run_get _)]
  dsimp only
  rw [run_bind_of_ok digits, run_bind_of_ok (run_get _), run_scan_number]
  simp only [Scanner.position_cursor, position_afterDigits_eq_iff]
  by_cases missing : (Numeral.scan s.rest).1.whole.isEmpty = true
  · rw [if_pos missing, if_pos missing]
    exact .error _
  · have nonempty : (Numeral.scan s.rest).1.whole ≠ [] := by simpa using missing
    rw [if_neg missing, if_neg missing, run_bind_of_ok (run_fraction inDigits),
      run_bind_of_ok last, run_bind_of_ok (run_get _), Scanner.position_cursor,
      run_bind_of_ok cut, run_bind_of_ok (run_takeAnyOf (by decide) inNumeral)]
    exact agree_numberEnd (isIn_afterAnyOf inNumeral _) (scan_scan_text nonempty)

-----------------------------------------------------------------------------------------
-- Paths
-----------------------------------------------------------------------------------------

/-- A word in front of a path belongs to it. -/
theorem pathChars_word {word : List Char} (chars : ∀ c ∈ word, Text.isWordChar c = true)
    (rest : List Char)
    : Scan.pathChars false (word ++ rest)
      = (word ++ (Scan.pathChars false rest).1, (Scan.pathChars false rest).2) := by
  induction word with
  | nil => rfl
  | cons c word ih =>
      rw [List.cons_append, Scan.pathChars, if_pos (chars c (by simp)),
        ih fun d member => chars d (by simp [member])]
      rfl

theorem pathChars_slash (rest : List Char)
    : Scan.pathChars false ('/' :: rest)
      = ('/' :: (Scan.pathChars true rest).1, (Scan.pathChars true rest).2) := rfl

/-- Behind a slash a word has to come. -/
theorem pathChars_afterSlash (rest : List Char)
    : Scan.pathChars true rest
      = if rest.takeWhile Text.isWordChar = [] then ([], false) else Scan.pathChars false rest := by
  cases rest with
  | nil => rfl
  | cons c rest =>
      cases word : Text.isWordChar c with
      | true => simp [Scan.pathChars, word]
      | false => simp [Scan.pathChars, word]

theorem pathChars_end {rest : List Char} (ends : Grammar.EndsWord rest)
    (slash : rest.head? ≠ some '/')
    : Scan.pathChars false rest = ([], true) := by
  cases rest with
  | nil => rfl
  | cons c rest =>
      have other : c ≠ '/' := fun same => slash (congrArg some same)
      simp [Scan.pathChars, ends c rfl, other]

/-- The place behind the names of a path, of which some characters have been taken. -/
def namesOutcome (s : Scanner) (count : Nat) : Except QueryError (Unit × Scanner) :=
  let (chars, complete) := Scan.pathChars false (s.advance count).rest
  if complete then .ok ((), s.advance (count + chars.length))
  else .error (.parse (.path (.emptyName (String.ofList (s.rest.take (count + chars.length))))))

/-- The names of a path are read to its end, by induction on the steps: each name takes its slash.
-/
theorem run_pathNames (h : s.IsIn text) {count steps : Nat}
    (ends : Grammar.EndsWord (s.advance count).rest)
    (enough : Text.octetCount (s.advance count).rest < steps)
    : (pathNames text s.position steps).run ((s.advance count).cursor depth)
      = ofScan depth (namesOutcome s count) := by
  induction steps generalizing count with
  | zero => exact absurd enough (Nat.not_lt_zero _)
  | succ steps ih =>
      rw [pathNames, run_bind_of_ok (run_peek (h.advance count))]
      by_cases slash : (s.advance count).peek? = some '/'
      · obtain ⟨more, left⟩ := List.head?_eq_some_iff.mp slash
        have behind : (s.advance (count + 1)).rest = more := by
          rw [← Scanner.advance_advance, Scanner.rest_advance, left]
          rfl
        have moved : (advance text 1).run ((s.advance count).cursor depth)
            = .ok ((), (s.advance (count + 1)).cursor depth) := by
          rw [run_advance_one (h.advance count) slash rfl, Scanner.advance_advance]
        rw [if_pos slash, run_bind_of_ok moved, run_bind_of_ok (run_wordHere (h.advance _)),
          Scanner.word, behind, namesOutcome, left, pathChars_slash, pathChars_afterSlash]
        by_cases missing : more.takeWhile Text.isWordChar = []
        · rw [if_pos missing, if_pos missing, run_bind_of_ok (run_get _), Scanner.position_cursor,
            run_bind_of_ok (run_slice_advance h (count + 1) _)]
          rfl
        · have word : (s.advance (count + 1)).word = more.takeWhile Text.isWordChar := by
            rw [Scanner.word, behind]
          have named : (advance text (Text.octetCount (more.takeWhile Text.isWordChar))).run
                ((s.advance (count + 1)).cursor depth)
              = .ok ((), (s.advance (count + 1 + (more.takeWhile Text.isWordChar).length)).cursor
                depth) := by
            rw [← word, run_advance_word (h.advance (count + 1)), Scanner.advance_advance]
          have last : (s.advance (count + 1 + (more.takeWhile Text.isWordChar).length)).rest
              = more.drop (more.takeWhile Text.isWordChar).length := by
            rw [← Scanner.advance_advance, Scanner.rest_advance, behind]
          have fewer : Text.octetCount (more.drop (more.takeWhile Text.isWordChar).length)
              ≤ Text.octetCount more := by
            conv => rhs; rw [← List.take_append_drop (more.takeWhile Text.isWordChar).length more]
            rw [Text.octetCount_append]
            exact Nat.le_add_left ..
          have pos := Text.octetCount_pos '/'
          rw [left, Text.octetCount_cons] at enough
          have chars : ∀ c ∈ more.takeWhile Text.isWordChar, Text.isWordChar c = true :=
            fun _ => Text.of_mem_takeWhile
          have path := pathChars_word chars (more.dropWhile Text.isWordChar)
          rw [List.takeWhile_append_dropWhile, ← Text.drop_length_takeWhile] at path
          rw [if_neg missing, if_neg missing, run_bind_of_ok named,
            ih (by rw [last]; exact Grammar.endsWord_drop_takeWhile more) (by rw [last]; omega),
            namesOutcome, last, path]
          have total (last : Nat)
              : count + 1 + (more.takeWhile Text.isWordChar).length + last
                = count + ((more.takeWhile Text.isWordChar).length + last + 1) := by
            omega
          simp only [List.length_cons, List.length_append, total]
      · rw [if_neg slash, namesOutcome, pathChars_end ends slash]
        rfl

/-- The first name and the others are the characters of the path. -/
theorem namesOutcome_word (s : Scanner)
    : namesOutcome s s.word.length
      = if (Scan.pathChars false s.rest).2 then
          .ok ((), s.advance (Scan.pathChars false s.rest).1.length)
        else
          .error (.parse (.path
            (.emptyName (String.ofList (Scan.pathChars false s.rest).1)))) := by
  have behind : (s.advance s.word.length).rest = s.rest.dropWhile Text.isWordChar :=
    Text.drop_length_takeWhile Text.isWordChar s.rest
  have chars : ∀ c ∈ s.rest.takeWhile Text.isWordChar, Text.isWordChar c = true :=
    fun _ => Text.of_mem_takeWhile
  have whole := pathChars_word chars (s.rest.dropWhile Text.isWordChar)
  rw [List.takeWhile_append_dropWhile] at whole
  obtain ⟨after, split, _⟩ := Scan.pathChars_spec false s.rest
  have taken := List.prefix_iff_eq_take.mp ⟨after, split.symm⟩
  rw [namesOutcome, behind, whole]
  rw [whole] at taken
  simp only [List.length_append] at taken ⊢
  rw [taken]
  rfl

/-- A path is read behind its first name as it is read as a whole. -/
theorem agree_path (h : s.IsIn text)
    : Agree text depth ((pathFrom text s.position).run ((s.advance s.word.length).cursor depth))
        (Scan.path.run s) := by
  have names : (pathNames text s.position (stepsFor text)).run
        ((s.advance s.word.length).cursor depth)
      = ofScan depth (namesOutcome s s.word.length) :=
    run_pathNames h (Grammar.endsWord_drop_takeWhile s.rest) (h.advance s.word.length).octets_lt
  rw [namesOutcome_word] at names
  obtain ⟨after, split, _⟩ := Scan.pathChars_spec false s.rest
  have taken := List.prefix_iff_eq_take.mp ⟨after, split.symm⟩
  rw [pathFrom, Scan.path, Scan.run_bind_of_ok (Scan.run_get s)]
  dsimp only
  by_cases complete : (Scan.pathChars false s.rest).2 = true
  · rw [if_pos complete] at names ⊢
    rw [run_bind_of_ok names, run_bind_of_ok (run_get _), Scanner.position_cursor,
      run_bind_of_ok (run_slice_advance h _ _), ← taken]
    cases PropertyPath.parse (String.ofList (Scan.pathChars false s.rest).1) with
    | ok path => exact .ok (h.advance _) _
    | error error => exact .error _
  · rw [if_neg complete] at names ⊢
    rw [run_bind_of_error names]
    exact .error _

-----------------------------------------------------------------------------------------
-- Operands that start with a word
-----------------------------------------------------------------------------------------

section Operands

variable {octets : Reading (List Operand)} {chars : Scan (List Operand)}

theorem follows_call (follows : Follows text depth octets chars) (name : String)
    : Follows text depth (call name octets) (Scan.call name chars) := by
  unfold call Scan.call
  cases StringTest.ofName? name with
  | some test => exact follows_fail _
  | none =>
      cases Function.ofName? name with
      | none => exact follows_reject _
      | some function =>
          refine follows.bind fun operands => ?_
          cases Operand.call? function operands with
          | some operand => exact follows_pure _
          | none => exact follows_fail _

/-- An operand that starts with a word is read where the word starts, by cases of what it is. -/
theorem agree_wordOperand (follows : Follows text depth octets chars) (h : s.IsIn text)
    (solid : s.skipBlanks = s)
    : Agree text depth ((wordOperand text octets).run (s.cursor depth))
        ((Scan.wordOperand chars).run s) := by
  have word : (peekWord text).run (s.cursor depth) = .ok (s.word, s.cursor depth) := by
    rw [run_peekWord h, solid]
  have behind := h.advance s.word.length
  rw [wordOperand, run_bind_of_ok (run_get _), run_bind_of_ok word]
  dsimp only
  rw [run_bind_of_ok (run_advance_word h), run_bind_of_ok (run_peek behind)]
  by_cases typed : Scan.startsTyped s
  · rw [if_pos typed, Scan.run_wordOperand_typed typed]
    exact (agree_quoted behind typed.2).bind fun _ _ _ isIn => .ok isIn _
  · rw [if_neg typed]
    split
    · next value known slash =>
        rw [Scan.run_wordOperand_constant typed known (by simpa using slash)]
        exact .ok behind _
    · next other =>
        have constant : ¬ Scan.startsConstant s := by
          intro held
          obtain ⟨known, slash⟩ := held
          obtain ⟨value, known⟩ := Option.isSome_iff_exists.mp known
          exact other value known (beq_false_of_ne slash)
        rw [Scan.run_wordOperand_other typed constant, run_bind_of_ok (run_get _),
          run_bind_of_ok (run_skipBlanks behind), run_bind_of_ok (run_peek behind.skipBlanks)]
        split
        · exact follows_call follows _ _ behind.skipBlanks
        · rw [Scanner.position_cursor,
            run_bind_of_ok (run_moveTo (s := (s.advance s.word.length).skipBlanks) behind rfl)]
          split
          · exact .error _
          · split
            · exact .error _
            · exact agree_path h

/-- An operand is read alike, by its first character behind white space. -/
theorem follows_operandWith (follows : Follows text depth octets chars)
    : Follows text depth (operandWith text octets) (Scan.operandWith chars) := by
  intro s h
  have isIn := h.skipBlanks
  rw [operandWith, run_bind_of_ok (run_skipBlanks h), run_bind_of_ok (run_peek isIn)]
  cases first : s.skipBlanks.peek? with
  | none =>
      rw [Scan.operandWith, Scan.run_bind_of_ok (Scan.run_skipBlanks s),
        Scan.run_bind_of_ok (Scan.run_get _), first]
      exact .error _
  | some c =>
      rw [Scan.run_operandWith first]
      dsimp only
      split
      · next quote =>
          refine (agree_quoted isIn (quote ▸ first)).bind fun _ _ _ isIn => ?_
          exact .ok isIn _
      · split
        · exact agree_number isIn
        · split
          · exact agree_wordOperand follows isIn s.skipBlanks_skipBlanks
          · exact .error _

end Operands

-----------------------------------------------------------------------------------------
-- Arguments of calls
-----------------------------------------------------------------------------------------

theorem run_enter (shallow : depth < Scan.maxNesting)
    : enter.run (s.cursor depth) = .ok ((), s.cursor (depth + 1)) := by
  have fits : ¬ Scan.maxNesting < depth + 1 := Nat.not_lt.mpr shallow
  rw [enter]
  change (if Scan.maxNesting < depth + 1 then _ else _ : Reading Unit).run _ = _
  rw [if_neg fits]
  rfl

theorem run_enter_deep (deep : Scan.maxNesting ≤ depth)
    : enter.run (s.cursor depth) = .error (.error (.parse .nestedTooDeeply)) := by
  rw [enter]
  change (if Scan.maxNesting < depth + 1 then _ else _ : Reading Unit).run _ = _
  rw [if_pos (Nat.lt_succ_of_le deep)]
  rfl

theorem run_leave (s : Scanner) (depth : Nat)
    : leave.run (s.cursor (depth + 1)) = .ok ((), s.cursor depth) := rfl

section Arguments

variable {octets : Reading Operand} {chars : Scan Operand}

/-- Operands are read to the last one that a comma follows, by induction on the steps of both
readers: each comma is an octet and a character.
-/
theorem agree_operandList (follows : Follows text depth octets chars) (goesOn : Scan.GoesOn chars)
    {steps count : Nat} (h : s.IsIn text) (enough : Text.octetCount s.rest < steps)
    (room : s.rest.length < count)
    : Agree text depth ((operandList text octets steps).run (s.cursor depth))
        ((Scan.operandList chars count).run s) := by
  induction steps generalizing s count with
  | zero => exact absurd enough (Nat.not_lt_zero _)
  | succ steps ih =>
      cases count with
      | zero => exact absurd room (Nat.not_lt_zero _)
      | succ count =>
          refine (follows s h).bind fun first m read isIn => ?_
          rw [run_bind_of_ok (run_skipBlanks isIn),
            run_bind_of_ok (run_peek isIn.skipBlanks),
            Scan.run_bind_of_ok (Scan.run_skipBlanks m), Scan.run_bind_of_ok (Scan.run_peek? _)]
          split
          · next comma =>
              rw [run_bind_of_ok (run_advance_one isIn.skipBlanks comma rfl),
                Scan.run_bind_of_ok (Scan.run_advance ..)]
              have ahead : s.Reaches m.skipBlanks := by
                have allowed := goesOn s
                rw [read] at allowed
                exact allowed.trans m.reaches_skipBlanks
              have before := ahead.fewer
              have fewer := Scanner.fewer_advance_one comma
              refine (ih (isIn.skipBlanks.advance 1) (by omega) (by omega)).bind
                fun others m' _ isIn => ?_
              exact .ok isIn _
          · exact .ok isIn.skipBlanks _

theorem follows_argumentsWith (follows : Follows text (depth + 1) octets chars)
    (goesOn : Scan.GoesOn chars) (shallow : depth < Scan.maxNesting)
    : Follows text depth (argumentsWith text octets) (Scan.argumentsWith chars) := by
  refine (follows_expect '(').bind fun _ s h => ?_
  rw [run_bind_of_ok (run_enter shallow), run_bind_of_ok (run_skipBlanks h),
    run_bind_of_ok (run_peek h.skipBlanks), Scan.run_bind_of_ok (Scan.run_skipBlanks s),
    Scan.run_bind_of_ok (Scan.run_get _)]
  have closes (operands : List Operand) (m : Scanner) (isIn : m.IsIn text)
      : Agree text depth
          ((do expect text ')'; leave; return operands : Reading (List Operand)).run
            (m.cursor (depth + 1)))
          ((do Scan.expect ')'; return operands : Scan (List Operand)).run m) :=
    (follows_expect ')' m isIn).bind fun _ m' _ isIn => by
      rw [run_bind_of_ok (run_leave m' depth)]
      exact .ok isIn operands
  dsimp only
  split
  · exact closes [] _ h.skipBlanks
  · exact (agree_operandList follows goesOn h.skipBlanks h.skipBlanks.octets_lt
      (Nat.lt_succ_self _)).bind fun operands m _ => closes operands m

theorem follows_noArguments (deep : Scan.maxNesting ≤ depth)
    : Follows text depth (argumentsWith text octets) Scan.noArguments := by
  refine (follows_expect '(').bind fun _ s h => ?_
  rw [run_bind_of_error (run_enter_deep deep)]
  exact .error _

end Arguments

-----------------------------------------------------------------------------------------
-- All levels of parentheses
-----------------------------------------------------------------------------------------

/-- Operands are read alike under every number of open parentheses: there are as many levels left
as may still be opened, and one more, by induction on these.
-/
theorem follows_operand {nesting levels : Nat} (few : nesting ≤ Scan.maxNesting)
    (room : nesting < levels)
    : Follows text (Scan.maxNesting - nesting) (operand text levels) (Scan.operand nesting) := by
  induction nesting generalizing levels with
  | zero =>
      obtain ⟨levels, rfl⟩ := Nat.exists_eq_add_one.mpr room
      exact follows_operandWith (follows_noArguments (Nat.le_refl _))
  | succ nesting ih =>
      obtain ⟨levels, rfl⟩ := Nat.exists_eq_add_one.mpr (Nat.zero_lt_of_lt room)
      have inner : Follows text (Scan.maxNesting - nesting) (operand text levels)
          (Scan.operand nesting) :=
        ih (Nat.le_of_succ_le few) (Nat.lt_of_succ_lt_succ room)
      have deeper : Scan.maxNesting - nesting = Scan.maxNesting - (nesting + 1) + 1 := by omega
      rw [deeper] at inner
      exact follows_operandWith
        (follows_argumentsWith inner (Scan.goesOn_operand nesting) (by omega))

theorem follows_arguments {nesting levels : Nat} (few : nesting ≤ Scan.maxNesting)
    (room : nesting < levels)
    : Follows text (Scan.maxNesting - nesting) (arguments text levels)
        (Scan.arguments nesting) := by
  obtain ⟨levels, rfl⟩ := Nat.exists_eq_add_one.mpr (Nat.zero_lt_of_lt room)
  cases nesting with
  | zero => exact follows_noArguments (Nat.le_refl _)
  | succ nesting =>
      have inner : Follows text (Scan.maxNesting - nesting) (operand text levels)
          (Scan.operand nesting) :=
        follows_operand (Nat.le_of_succ_le few) (Nat.lt_of_succ_lt_succ room)
      have deeper : Scan.maxNesting - nesting = Scan.maxNesting - (nesting + 1) + 1 := by omega
      rw [deeper] at inner
      exact follows_argumentsWith inner (Scan.goesOn_operand nesting) (by omega)

end RecordQuery.Reading
