import RecordQuery.Proofs.Filter.Scanning

/-! The literals of filter texts, read and written: quoted texts and numbers. The reader of a quoted
text stops at the first quote that is not doubled, so it takes back exactly what was quoted in front
of a text that does not start with a quote. A number ends behind its type suffix, if it has one.
-/

namespace RecordQuery.Scan

open Grammar

-----------------------------------------------------------------------------------------
-- Quoted texts
-----------------------------------------------------------------------------------------

/-- What stands for a text between quotes: each quote of it is written twice. -/
def doubled (body : List Char) : List Char :=
  body.flatMap (fun c => if c = '\'' then ['\'', '\''] else [c])

theorem quoted_eq (s : String) : Text.quoted s = '\'' :: (doubled s.toList ++ ['\'']) := rfl

/-- The reader takes what was written, by induction on the body. -/
theorem quotedBody?_doubled (body : List Char) {after : List Char} (h : after.head? ≠ some '\'')
    : quotedBody? (doubled body ++ '\'' :: after) = some (body, after) := by
  induction body with
  | nil =>
      cases after with
      | nil => rfl
      | cons c after =>
          have other : c ≠ '\'' := fun same => h (by rw [same]; rfl)
          simp [doubled, quotedBody?, other]
  | cons c body ih =>
      by_cases quote : c = '\''
      · subst quote
        simpa [doubled, quotedBody?] using ih
      · simpa [doubled, quotedBody?, quote] using ih

/-- What the reader takes was written, by induction along the text. -/
theorem doubled_of_quotedBody? {text body after : List Char}
    (h : quotedBody? text = some (body, after))
    : text = doubled body ++ '\'' :: after ∧ after.head? ≠ some '\'' := by
  fun_induction quotedBody? text generalizing body after with
  | case1 => simp at h
  | case2 rest ih =>
      obtain ⟨⟨read, left⟩, found, same⟩ := Option.map_eq_some_iff.mp h
      cases same
      obtain ⟨rfl, closes⟩ := ih found
      exact ⟨by simp [doubled], closes⟩
  | case3 rest single =>
      cases h
      refine ⟨by simp [doubled], ?_⟩
      intro quote
      obtain ⟨more, rfl⟩ := List.head?_eq_some_iff.mp quote
      exact single more rfl
  | case4 c rest _ single ih =>
      obtain ⟨⟨read, left⟩, found, same⟩ := Option.map_eq_some_iff.mp h
      cases same
      obtain ⟨rfl, closes⟩ := ih found
      have other : c ≠ '\'' := fun quote => single quote
      exact ⟨by simp [doubled, other], closes⟩

/-- The reader of quoted texts stops where a text follows that was not taken. -/
theorem run_quoted_of_body {s : Scanner} {body after : List Char}
    (h : quotedBody? (s.rest.drop 1) = some (body, after))
    : quoted.run s = .ok (String.ofList body, s.advance (s.rest.length - after.length)) := by
  rw [quoted, run_bind_of_ok (run_get s)]
  simp only [h]
  rw [run_bind_of_ok (run_advance ..), run_pure]

theorem run_quoted {s : Scanner} {text : String} {rest : List Char}
    (spelling : s.rest = Text.quoted text ++ rest) (closes : rest.head? ≠ some '\'')
    : ∃ s', quoted.run s = .ok (text, s') ∧ s'.rest = rest ∧ s'.joins = s.joins := by
  have body : quotedBody? (s.rest.drop 1) = some (text.toList, rest) := by
    rw [spelling, quoted_eq]
    simpa using quotedBody?_doubled text.toList closes
  refine ⟨s.advance (s.rest.length - rest.length), ?_, ?_, rfl⟩
  · rw [run_quoted_of_body body, String.ofList_toList]
  · rw [Scanner.rest_advance, spelling, List.length_append, Nat.add_sub_cancel, List.drop_left]

/-- Where a quoted text is read behind an opening quote, one is written. -/
theorem quoted_of_run {s s' : Scanner} {text : String} (opening : s.rest.head? = some '\'')
    (h : quoted.run s = .ok (text, s'))
    : s.rest = Text.quoted text ++ s'.rest ∧ s'.joins = s.joins := by
  obtain ⟨inner, start⟩ := List.head?_eq_some_iff.mp opening
  cases found : quotedBody? (s.rest.drop 1) with
  | none =>
      rw [quoted, run_bind_of_ok (run_get s)] at h
      simp only [found, run_fail, reduceCtorEq] at h
  | some result =>
      obtain ⟨body, after⟩ := result
      rw [run_quoted_of_body found] at h
      cases h
      rw [start, List.drop_one, List.tail_cons] at found
      obtain ⟨rfl, _⟩ := doubled_of_quotedBody? found
      refine ⟨?_, rfl⟩
      have spelling : s.rest = ('\'' :: (doubled body ++ ['\''])) ++ after := by simp [start]
      rw [quoted_eq, String.toList_ofList, Scanner.rest_advance]
      conv => rhs; rw [spelling, List.length_append, Nat.add_sub_cancel, List.drop_left]
      exact spelling

-----------------------------------------------------------------------------------------
-- Numbers
-----------------------------------------------------------------------------------------

/-- The value that the reader gives a numeral is the one it denotes, by cases of its size. -/
theorem numeralValue?_eq_some_iff {numeral : Numeral} {value : Number}
    : numeralValue? numeral = some value ↔ Denotes numeral value := by
  unfold numeralValue?
  dsimp only
  split
  · next small =>
      have fits : FitsSigned64 numeral := small
      have inRange : Number.InRange numeral.toInt :=
        ⟨fits.2.1, Int.lt_trans fits.2.2 (by decide)⟩
      rw [Number.ofInt?, dif_pos inRange]
      constructor
      · intro same
        cases same
        exact .int fits inRange
      · intro denotes
        cases denotes with
        | int => rfl
        | double large => exact absurd fits large
  · next large =>
      constructor
      · intro found
        obtain ⟨decimal, read, found⟩ := Option.bind_eq_some_iff.mp found
        obtain ⟨x, finite, same⟩ := Option.bind_eq_some_iff.mp found
        cases same
        exact .double large read finite
      · intro denotes
        cases denotes with
        | int fits => exact absurd fits large
        | double _ read finite => simp [read, finite]

/-- The place behind a type suffix, if there is one. -/
def afterSuffix (s : Scanner) : Scanner :=
  if s.peek?.any isTypeSuffix then s.advance 1 else s

/-- The end of a number: no identifier character may follow, and the numeral has to have a value. -/
def numberEnd (start : Nat) (numeral : Numeral) : Scan Operand := do
  if (← peek?).any Text.isWordChar then fail (.invalidNumberAt start)
  match numeralValue? numeral with
  | some value => return .literal (.number value)
  | none => fail (.invalidNumber (String.ofList numeral.text))

/-- A check that fails lets no step after it succeed. -/
theorem run_unless_eq_ok {α : Type} {error : ParseError} {check : Prop} [Decidable check]
    {next : Scan α} {s : Scanner} {result : α × Scanner}
    : (if check then (do fail (α := PUnit) error; next) else next).run s = .ok result
      ↔ ¬ check ∧ next.run s = .ok result := by
  by_cases h : check
  · simp only [h, ↓reduceIte, run_bind_eq_ok, run_fail, reduceCtorEq, false_and, exists_false,
      not_true_eq_false]
  · simp [h]

/-- A number is a numeral with digits, a suffix if there is one, and an end. -/
theorem run_number_eq_ok {s : Scanner} {result : Operand × Scanner}
    : number.run s = .ok result
      ↔ (Numeral.scan s.rest).1.whole ≠ []
        ∧ (numberEnd s.position (Numeral.scan s.rest).1).run
            (afterSuffix (s.advance (Numeral.scan s.rest).1.text.length)) = .ok result := by
  rw [number, run_bind_of_ok (run_get s)]
  dsimp only
  rw [run_unless_eq_ok, run_bind_of_ok (run_advance ..), run_bind_of_ok (run_peek? _), afterSuffix,
    List.isEmpty_iff]
  split
  · rw [run_bind_of_ok (run_advance ..)]
    rfl
  · rfl

/-- A number ends where no identifier character follows, and stands for what its numeral denotes.
-/
theorem run_numberEnd_eq_ok {start : Nat} {numeral : Numeral} {s s' : Scanner} {operand : Operand}
    : (numberEnd start numeral).run s = .ok (operand, s')
      ↔ EndsWord s.rest ∧ s' = s
        ∧ ∃ value, Denotes numeral value ∧ operand = .literal (.number value) := by
  have ends : ¬ s.peek?.any Text.isWordChar ↔ EndsWord s.rest := by
    rw [EndsWord, Scanner.peek?]
    cases s.rest.head? <;> simp
  rw [numberEnd, run_bind_of_ok (run_peek? s), run_unless_eq_ok, ends]
  refine and_congr_right (fun _ => ?_)
  cases found : numeralValue? numeral with
  | none =>
      have none (value : Number) : ¬ Denotes numeral value := by
        rw [← numeralValue?_eq_some_iff, found]
        simp
      simp [none]
  | some value =>
      simp only [run_pure, Except.ok.injEq, Prod.mk.injEq, ← numeralValue?_eq_some_iff, found,
        Option.some.injEq, exists_eq_left']
      constructor
      · intro held
        obtain ⟨rfl, rfl⟩ := held
        exact ⟨rfl, rfl⟩
      · intro held
        obtain ⟨rfl, rfl⟩ := held
        exact ⟨rfl, rfl⟩

theorem mem_typeSuffixes {suffix : List Char}
    : suffix ∈ typeSuffixes ↔ suffix = [] ∨ ∃ c, isTypeSuffix c = true ∧ suffix = [c] := by
  simp only [typeSuffixes, isTypeSuffix, List.mem_cons, List.not_mem_nil, or_false,
    decide_eq_true_eq]
  constructor
  · intro held
    rcases held with rfl | rfl | rfl | rfl | rfl | rfl | rfl | rfl | rfl <;> simp
  · intro held
    rcases held with rfl | ⟨c, rfl | rfl | rfl | rfl | rfl | rfl | rfl | rfl, rfl⟩ <;> simp

theorem isWordChar_of_isTypeSuffix {c : Char} (h : isTypeSuffix c = true)
    : Text.isWordChar c = true ∧ Text.isDigit c = false := by
  simp only [isTypeSuffix, List.mem_cons, List.not_mem_nil, or_false, decide_eq_true_eq] at h
  rcases h with rfl | rfl | rfl | rfl | rfl | rfl | rfl | rfl <;> decide

/-- The suffix that is passed over is one that a numeral may have. -/
theorem exists_suffix (s : Scanner)
    : ∃ suffix ∈ typeSuffixes, s.rest = suffix ++ (afterSuffix s).rest := by
  unfold afterSuffix Scanner.peek?
  cases start : s.rest with
  | nil => exact ⟨[], mem_typeSuffixes.mpr (.inl rfl), by simp [start]⟩
  | cons c rest =>
      by_cases suffix : isTypeSuffix c = true
      · exact ⟨[c], mem_typeSuffixes.mpr (.inr ⟨c, suffix, rfl⟩), by simp [suffix, start]⟩
      · exact ⟨[], mem_typeSuffixes.mpr (.inl rfl), by simp [suffix, start]⟩

@[simp]
theorem joins_afterSuffix (s : Scanner) : (afterSuffix s).joins = s.joins := by
  unfold afterSuffix
  split <;> rfl

/-- A suffix is passed over in front of a text that starts with no identifier character. -/
theorem rest_afterSuffix {s : Scanner} {suffix rest : List Char} (typed : suffix ∈ typeSuffixes)
    (left : s.rest = suffix ++ rest) (ends : EndsWord rest)
    : (afterSuffix s).rest = rest := by
  have stop : rest.head?.any isTypeSuffix = false := by
    cases start : rest.head? with
    | none => rfl
    | some c =>
        cases letter : isTypeSuffix c with
        | false => simp [letter]
        | true => exact absurd (isWordChar_of_isTypeSuffix letter).1 (by simp [ends c start])
  unfold afterSuffix Scanner.peek?
  rcases mem_typeSuffixes.mp typed with rfl | ⟨c, letter, rfl⟩
  · simp [left, stop]
  · simp [left, letter]

/-- Where a number is read, one is written. -/
theorem number_of_run {s s' : Scanner} {operand : Operand} (h : number.run s = .ok (operand, s'))
    : s'.joins = s.joins ∧ ∃ numeral suffix value, numeral.IsWritten ∧ numeral.whole ≠ []
        ∧ Denotes numeral value ∧ suffix ∈ typeSuffixes ∧ operand = .literal (.number value)
        ∧ s.rest = numeral.text ++ (suffix ++ s'.rest) ∧ EndsWord s'.rest := by
  obtain ⟨nonempty, ends, rfl, value, denotes, rfl⟩ :=
    (run_number_eq_ok.trans (and_congr_right (fun _ => run_numberEnd_eq_ok))).mp h
  obtain ⟨suffix, typed, left⟩ :=
    exists_suffix (s.advance (Numeral.scan s.rest).1.text.length)
  refine ⟨by simp, _, suffix, value, Numeral.isWritten_scan s.rest, nonempty, denotes, typed, rfl,
    ?_, ends⟩
  rw [← left, Scanner.rest_advance]
  exact (List.prefix_iff_eq_append.mp ⟨_, Numeral.scan_text s.rest⟩).symm

/-- The only numerals with an exponent mark that denote a number have digits behind it. -/
theorem digits_of_denotes {numeral : Numeral} {value : Number} (h : Denotes numeral value)
    : ∀ e ∈ numeral.exponent, e.digits ≠ [] := by
  intro e found none
  cases h with
  | int fits =>
      have noMark := fits.1
      simp only [Numeral.isIntegral, Option.mem_def.mp found, Bool.and_eq_true,
        Option.isNone_some, Bool.false_eq_true, and_false] at noMark
  | double _ read =>
      simp only [Numeral.toDecimal?, Option.mem_def.mp found, none, List.isEmpty_nil, ↓reduceIte,
        reduceCtorEq] at read

/-- A numeral with a value does not go on in its suffix, nor behind it where a word ends. -/
theorem endsBefore_suffix {numeral : Numeral} {value : Number} {suffix rest : List Char}
    (denotes : Denotes numeral value) (typed : suffix ∈ typeSuffixes) (ends : EndsWord rest)
    (point : rest.head? ≠ some '.')
    : numeral.EndsBefore (suffix ++ rest) := by
  have noWord (c : Char) (word : Text.isWordChar c = true) : rest.head? ≠ some c := by
    intro same
    exact absurd word (by simp [ends c same])
  have next (c : Char) (other : rest.head? ≠ some c) (noSuffix : isTypeSuffix c = false)
      : (suffix ++ rest).head? ≠ some c := by
    rcases mem_typeSuffixes.mp typed with rfl | ⟨d, letter, rfl⟩
    · exact other
    · intro same
      simp only [List.cons_append, List.head?_cons, Option.some.injEq] at same
      subst same
      simp [letter] at noSuffix
  exact {
    digit := by
      intro c first
      cases digit : Text.isDigit c with
      | false => rfl
      | true =>
          refine absurd first (next c (noWord c (Text.isWordChar_of_isDigit digit)) ?_)
          cases letter : isTypeSuffix c with
          | false => rfl
          | true => simp [(isWordChar_of_isTypeSuffix letter).2] at digit
    point := fun _ _ => next '.' point rfl
    mark := fun _ => ⟨next 'e' (noWord 'e' (by decide)) rfl,
      next 'E' (noWord 'E' (by decide)) rfl⟩
    sign := fun e found _ none => absurd none (digits_of_denotes denotes e found)
  }

/-- A number is read where one is written in front of a text that does not start with a point. -/
theorem run_number {s : Scanner} {numeral : Numeral} {suffix rest : List Char} {value : Number}
    (written : numeral.IsWritten) (nonempty : numeral.whole ≠ []) (denotes : Denotes numeral value)
    (typed : suffix ∈ typeSuffixes) (spelling : s.rest = numeral.text ++ (suffix ++ rest))
    (ends : EndsWord rest) (point : rest.head? ≠ some '.')
    : ∃ s', number.run s = .ok (.literal (.number value), s') ∧ s'.rest = rest
        ∧ s'.joins = s.joins := by
  have scanned : Numeral.scan s.rest = (numeral, suffix ++ rest) := by
    rw [spelling]
    exact written.scan_append nonempty (endsBefore_suffix denotes typed ends point)
  have left : (s.advance numeral.text.length).rest = suffix ++ rest := by
    rw [Scanner.rest_advance, spelling, List.drop_left]
  have passed := rest_afterSuffix typed left ends
  refine ⟨afterSuffix (s.advance numeral.text.length), ?_, passed, by simp⟩
  rw [run_number_eq_ok, scanned]
  refine ⟨nonempty, run_numberEnd_eq_ok.mpr ⟨?_, rfl, value, denotes, rfl⟩⟩
  rw [passed]
  exact ends

end RecordQuery.Scan
