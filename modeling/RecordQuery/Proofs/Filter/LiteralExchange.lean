import RecordQuery.Proofs.Filter.QuotedTexts
import RecordQuery.Proofs.Filter.Templates

/-! Quoted text stays within its quotes. Every phrase of the grammar is spelled by a template with
its string literals in it, since between them no quote stands. Whatever else is quoted at the places,
the phrase is spelled with those literals in it, and the rest of the filter is the same.
-/

namespace RecordQuery

namespace Grammar

variable {text rest : List Char}

/-- What a phrase spells, with the string literals in it, is spelled by a template if no quote
follows directly.
-/
def IsTemplated {α : Type} (phrase : Phrase α) (strings : α → List String)
    (withStrings : α → List String → α)
    : Prop :=
  ∀ ⦃a : α⦄ ⦃text rest : List Char⦄, phrase a text rest → rest.head? ≠ some '\''
    → Templated (strings a) (fun texts => phrase (withStrings a texts)) text rest

-----------------------------------------------------------------------------------------
-- Where no quotes are
-----------------------------------------------------------------------------------------

theorem head?_ne_quote_of_afterBlanks {rest : List Char} {c : Char} (other : c ≠ '\'')
    (h : (afterBlanks rest).head? = some c)
    : rest.head? ≠ some '\'' := by
  intro first
  obtain ⟨more, rfl⟩ := List.head?_eq_some_iff.mp first
  rw [afterBlanks_cons (by decide)] at h
  cases h
  exact other rfl

/-- No quote stands where a word follows. -/
theorem head?_ne_quote_of_word {word : String} (isWord : IsWord word) {text rest : List Char}
    (h : Word word text rest)
    : text.head? ≠ some '\'' := by
  obtain ⟨c, head, isChar, _⟩ := Scan.exists_head_of_isWord isWord
  refine head?_ne_quote_of_afterBlanks (c := c) ?_ ?_
  · rintro rfl
    exact absurd isChar (by decide)
  · rw [h.1, List.head?_append, head]
    rfl

theorem noQuote_of_isWord {word : String} (h : IsWord word) : '\'' ∉ word.toList := by
  intro member
  exact absurd (h.2.1 '\'' member) (by decide)

theorem noQuote_of_isOperandPath {path : PropertyPath} (h : IsOperandPath path)
    : '\'' ∉ path.text.toList := by
  have whole := Scan.pathChars_append (Scan.takesNames_text h.identifiers) (Text.stops_nil _)
    (Option.some_ne_none '/').symm
  obtain ⟨_, _, _, chars, _⟩ := Scan.pathChars_spec false (path.text.toList ++ [])
  rw [whole] at chars
  intro member
  rcases chars '\'' member with word | slash
  · exact absurd word (by decide)
  · exact absurd slash (by decide)

theorem noQuote_of_digits {digits : List Char} (all : ∀ c ∈ digits, Text.isDigit c = true)
    : '\'' ∉ digits := by
  intro member
  exact absurd (all _ member) (by decide)

theorem noQuote_of_exponent {e : Numeral.Exponent} (mark : e.mark = 'e' ∨ e.mark = 'E')
    (sign : ∀ c ∈ e.sign, c = '+' ∨ c = '-') (digits : ∀ c ∈ e.digits, Text.isDigit c = true)
    : '\'' ∉ e.text := by
  simp only [Numeral.Exponent.text, List.cons_append, List.mem_cons, List.mem_append,
    Option.mem_toList, not_or]
  refine ⟨?_, ?_, noQuote_of_digits digits⟩
  · intro same
    rw [← same] at mark
    exact absurd mark (by decide)
  · intro member
    exact absurd (sign _ member) (by decide)

theorem noQuote_of_isWritten {numeral : Numeral} (h : numeral.IsWritten)
    : '\'' ∉ numeral.text := by
  have sign : '\'' ∉ (if numeral.negative then ['-'] else []) := by
    split <;> simp
  have fraction : '\'' ∉ Numeral.fractionText numeral.fraction := by
    cases found : numeral.fraction with
    | none => exact List.not_mem_nil
    | some digits => simpa [Numeral.fractionText] using noQuote_of_digits (h.fraction digits found)
  have exponent : '\'' ∉ Numeral.exponentText numeral.exponent := by
    cases found : numeral.exponent with
    | none => exact List.not_mem_nil
    | some e => exact noQuote_of_exponent (h.mark e found) (h.sign e found) (h.exponent e found)
  rw [Numeral.text_eq]
  simp only [List.mem_append, not_or]
  exact ⟨sign, noQuote_of_digits h.whole, fraction, exponent⟩

theorem noQuote_of_typeSuffix {suffix : List Char} (h : suffix ∈ typeSuffixes)
    : '\'' ∉ suffix := by
  have listed : ∀ suffix ∈ typeSuffixes, '\'' ∉ suffix := by decide
  exact listed suffix h

-----------------------------------------------------------------------------------------
-- Spellings behind white space
-----------------------------------------------------------------------------------------

theorem exists_blanks (text : List Char)
    : ∃ blanks, text = blanks ++ afterBlanks text ∧ '\'' ∉ blanks
        ∧ ∀ more : List Char, more.head? = (afterBlanks text).head?
          → afterBlanks (blanks ++ more) = more := by
  refine ⟨text.takeWhile Text.isBlank, List.takeWhile_append_dropWhile.symm,
    fun member => absurd (Text.of_mem_takeWhile member) (by decide), fun more starts => ?_⟩
  rw [afterBlanks, List.dropWhile_append_of_pos fun _ => Text.of_mem_takeWhile]
  refine Text.dropWhile_of_head? fun c first => ?_
  rw [starts] at first
  exact Text.head?_dropWhile_eq_false Text.isBlank text c first

/-- What is spelled without quotes behind white space has no places. -/
theorem templated_of_spelling {p : List Char → List Char → Prop} (spelled : List Char)
    (noQuote : '\'' ∉ spelled) (h : afterBlanks text = spelled ++ rest)
    (spells : ∀ text' rest' : List Char, rest'.head? = rest.head?
      → afterBlanks text' = spelled ++ rest' → p text' rest')
    : Templated [] (fun _ => p) text rest := by
  obtain ⟨blanks, split, blank, behind⟩ := exists_blanks text
  rw [h] at split behind
  rw [split, ← List.append_assoc]
  refine Templated.of_text (by simp [blank, noQuote]) fun rest' starts => ?_
  refine spells _ rest' starts ?_
  rw [List.append_assoc]
  exact behind _ (by rw [List.head?_append, List.head?_append, starts])

/-- What is quoted behind white space and a text without quotes is a place. -/
theorem templated_of_quoted {p : String → List Char → List Char → Prop} (spelled : List Char)
    {s : String} (noQuote : '\'' ∉ spelled)
    (h : afterBlanks text = spelled ++ (Text.quoted s ++ rest))
    (spells : ∀ (t : String) (text' rest' : List Char),
      afterBlanks text' = spelled ++ (Text.quoted t ++ rest') → p t text' rest')
    : Templated [s] (fun texts => p (texts.headD s)) text rest := by
  obtain ⟨blanks, split, blank, behind⟩ := exists_blanks text
  rw [h] at split behind
  rw [split, ← List.append_assoc]
  refine Templated.of_quoted (by simp [blank, noQuote]) fun t rest' _ => ?_
  refine spells t _ rest' ?_
  rw [List.append_assoc]
  exact behind _ (by cases spelled <;> rfl)

theorem templated_mark {mark : Char} (other : mark ≠ '\'') (h : Mark mark text rest)
    : Templated [] (fun _ => Mark mark) text rest :=
  templated_of_spelling [mark] (by simpa using Ne.symm other) h
    fun _ _ _ spelled => spelled

theorem endsWord_of_head? {rest rest' : List Char} (ends : EndsWord rest)
    (starts : rest'.head? = rest.head?)
    : EndsWord rest' := by
  unfold EndsWord
  rw [starts]
  exact ends

theorem templated_word {word : String} (noQuote : '\'' ∉ word.toList) (h : Word word text rest)
    : Templated [] (fun _ => Word word) text rest :=
  templated_of_spelling word.toList noQuote h.1 fun _ _ starts spelled =>
    ⟨spelled, endsWord_of_head? h.2 starts⟩

theorem templated_constant {word : String} (noQuote : '\'' ∉ word.toList)
    (h : Constant word text rest)
    : Templated [] (fun _ => Constant word) text rest :=
  templated_of_spelling word.toList noQuote h.1.1 fun _ _ starts spelled =>
    ⟨⟨spelled, endsWord_of_head? h.1.2 starts⟩, starts ▸ h.2⟩

-----------------------------------------------------------------------------------------
-- Operands and arguments
-----------------------------------------------------------------------------------------

/-- A call has the literals of its arguments, and of other ones if they have other literals. -/
theorem call?_withStringsOf {function : Function} {operands : List Operand} {called : Operand}
    (arity : Operand.call? function operands = some called)
    : Operand.stringsOf operands = called.strings
      ∧ ∀ texts : List String, texts.length = called.strings.length
        → Operand.call? function (Operand.withStringsOf operands texts)
          = some (called.withStrings texts) := by
  unfold Operand.call? at arity
  split at arity
  · next argument =>
      cases arity
      refine ⟨by simp [Operand.stringsOf, Operand.strings], fun texts length => ?_⟩
      have whole : texts.length ≤ argument.strings.length := Nat.le_of_eq length
      simp only [Operand.withStringsOf, Operand.call?, Operand.withStrings,
        List.take_of_length_le whole]
  · next first second =>
      cases arity
      refine ⟨by simp [Operand.stringsOf, Operand.strings], fun texts length => ?_⟩
      rw [Operand.strings, List.length_append] at length
      have last : (texts.drop first.strings.length).length ≤ second.strings.length := by
        rw [List.length_drop]
        omega
      simp only [Operand.withStringsOf, Operand.call?, Operand.withStrings,
        List.take_of_length_le last]
  · next first second third =>
      cases arity
      refine ⟨by simp [Operand.stringsOf, Operand.strings], fun texts length => ?_⟩
      simp only [Operand.strings, List.length_append] at length
      have last : ((texts.drop first.strings.length).drop second.strings.length).length
          ≤ third.strings.length := by
        rw [List.length_drop, List.length_drop]
        omega
      simp only [Operand.withStringsOf, Operand.call?, Operand.withStrings,
        List.take_of_length_le last]
  · cases arity

theorem stringsOf_pair (first second : Operand)
    : Operand.stringsOf [first, second] = first.strings ++ second.strings := by
  rw [Operand.stringsOf, Operand.stringsOf, Operand.stringsOf, List.append_nil]

theorem withStringsOf_pair {first second : Operand} {texts : List String}
    (length : texts.length = (first.strings ++ second.strings).length)
    : Operand.withStringsOf [first, second] texts
      = [first.withStrings (texts.take first.strings.length),
        second.withStrings (texts.drop first.strings.length)] := by
  have last : (texts.drop first.strings.length).length ≤ second.strings.length := by
    rw [List.length_append] at length
    rw [List.length_drop]
    omega
  rw [Operand.withStringsOf, Operand.withStringsOf, Operand.withStringsOf,
    List.take_of_length_le last]

theorem constant_ne_string {word : String} {value : Json} (known : (word, value) ∈ constants)
    : (Operand.literal value).strings = []
      ∧ ∀ texts, (Operand.literal value).withStrings texts = .literal value := by
  simp only [constants, List.mem_cons, Prod.mk.injEq, List.not_mem_nil, or_false] at known
  rcases known with ⟨-, rfl⟩ | ⟨-, rfl⟩ | ⟨-, rfl⟩ <;> exact ⟨rfl, fun _ => rfl⟩

/-- An operand is spelled by a template, by cases of how it is spelled. -/
theorem isTemplated_operandWith {arguments : Phrase (List Operand)}
    (inside : IsTemplated arguments Operand.stringsOf Operand.withStringsOf)
    : IsTemplated (OperandWith arguments) Operand.strings Operand.withStrings := by
  intro operand text rest h ends
  cases h with
  | string s spelling =>
      exact templated_of_quoted (p := fun t => OperandWith arguments (.literal (.string t))) []
        List.not_mem_nil spelling fun t _ _ spelled => .string t spelled
  | typed type s known spelling =>
      exact templated_of_quoted (p := fun t => OperandWith arguments (.literal (.string t)))
        type.toList (noQuote_of_isWord (isWord_literalType known)) spelling
        fun t _ _ spelled => .typed type t known spelled
  | @number _ _ suffix value numeral written nonempty denotes typed spelling whole =>
      rw [← List.append_assoc] at spelling
      have noQuote := noQuote_of_isWritten written
      have noQuote' := noQuote_of_typeSuffix typed
      refine templated_of_spelling (p := OperandWith arguments (.literal (.number value)))
        (numeral.text ++ suffix) (by simp [noQuote, noQuote']) spelling ?_
      intro text' rest' starts spelled
      rw [List.append_assoc] at spelled
      exact .number numeral written nonempty denotes typed spelled
        (endsWord_of_head? whole starts)
  | @constant _ _ word value known spelling =>
      obtain ⟨nothing, same⟩ := constant_ne_string known
      rw [nothing]
      refine (templated_constant (noQuote_of_isWord (isWord_constant known)) spelling).mono ?_
      intro texts text rest _ spelled
      rw [same]
      exact .constant known spelled
  | call function name list arity =>
      obtain ⟨same, arity⟩ := call?_withStringsOf arity
      have whole := (templated_word (noQuote_of_isWord function.isWord_name) name).fixed_seq
        (inside list ends)
      rw [← same] at arity ⊢
      exact whole.mono fun texts text rest length ⟨middle, named, listed⟩ =>
        .call function named listed (arity texts length)
  | path path isPath spelling =>
      exact (templated_word (noQuote_of_isOperandPath isPath) spelling).mono
        fun _ _ _ _ spelled => .path path isPath spelled

/-- Operands with commas between them, by induction on their list. -/
theorem isTemplated_listed {operand : Phrase Operand}
    (inside : IsTemplated operand Operand.strings Operand.withStrings)
    : IsTemplated (Listed operand) Operand.stringsOf Operand.withStringsOf := by
  intro operands text rest h ends
  induction h with
  | @one first text rest spelling =>
      rw [Operand.stringsOf, Operand.stringsOf, List.append_nil]
      refine (inside spelling ends).mono fun texts text rest length spelled => ?_
      rw [Operand.withStringsOf, List.take_of_length_le (Nat.le_of_eq length)]
      exact .one spelled
  | @cons first others text middle inner rest spelling comma list ih =>
      have apart : middle.head? ≠ some '\'' :=
        head?_ne_quote_of_afterBlanks (c := ',') (by decide) (by rw [comma]; rfl)
      have whole := (inside spelling apart).seq
        ((templated_mark (by decide) comma).fixed_seq (ih ends))
      exact whole.mono fun texts text rest _ ⟨middle, spelled, inner, marked, listed⟩ =>
        .cons spelled marked listed

theorem isTemplated_argumentsWith {operand : Phrase Operand}
    (inside : IsTemplated operand Operand.strings Operand.withStrings)
    : IsTemplated (ArgumentsWith operand) Operand.stringsOf Operand.withStringsOf := by
  intro operands text rest h ends
  cases h with
  | empty opening closing =>
      have whole := (templated_mark (by decide) opening).fixed_seq
        (templated_mark (by decide) closing)
      exact whole.mono fun _ _ _ _ ⟨_, opened, closed⟩ => .empty opened closed
  | @parentheses _ _ inner last _ opening list closing =>
      have apart : last.head? ≠ some '\'' :=
        head?_ne_quote_of_afterBlanks (c := ')') (by decide) (by rw [closing]; rfl)
      have whole := ((templated_mark (by decide) opening).fixed_seq
        (isTemplated_listed inside list apart)).seq_fixed (templated_mark (by decide) closing)
      exact whole.mono fun _ _ _ _ ⟨_, ⟨_, opened, listed⟩, closed⟩ =>
        .parentheses opened listed closed

/-- By induction on the levels of parentheses. -/
theorem isTemplated_arguments (nesting : Nat)
    : IsTemplated (SpellsArguments nesting) Operand.stringsOf Operand.withStringsOf := by
  induction nesting with
  | zero => exact fun _ _ _ h => absurd h id
  | succ nesting ih => exact isTemplated_argumentsWith (isTemplated_operandWith ih)

theorem isTemplated_operand (nesting : Nat)
    : IsTemplated (SpellsOperand nesting) Operand.strings Operand.withStrings :=
  isTemplated_operandWith (isTemplated_arguments nesting)

-----------------------------------------------------------------------------------------
-- Conditions and filters
-----------------------------------------------------------------------------------------

/-- A string test in front of its two arguments, by cases of what stands behind them. -/
theorem isTemplated_conditionWith {operand : Phrase Operand}
    {arguments : Phrase (List Operand)} {group : Phrase Filter}
    (operands : IsTemplated operand Operand.strings Operand.withStrings)
    (pairs : IsTemplated arguments Operand.stringsOf Operand.withStringsOf)
    (groups : IsTemplated group Filter.strings Filter.withStrings)
    : IsTemplated (ConditionWith operand arguments group) Filter.strings Filter.withStrings := by
  intro filter text rest h ends
  cases h with
  | @group _ _ _ last _ opening filling closing =>
      have apart : last.head? ≠ some '\'' :=
        head?_ne_quote_of_afterBlanks (c := ')') (by decide) (by rw [closing]; rfl)
      have whole := ((templated_mark (by decide) opening).fixed_seq
        (groups filling apart)).seq_fixed (templated_mark (by decide) closing)
      exact whole.mono fun _ _ _ _ ⟨_, ⟨_, opened, filled⟩, closed⟩ => .group opened filled closed
  | @test first second _ _ _ test name pair =>
      have whole := (templated_word (noQuote_of_isWord test.isWord_name) name).fixed_seq
        (pairs pair ends)
      rw [stringsOf_pair] at whole
      refine whole.mono fun texts text rest length ⟨inner, named, listed⟩ => ?_
      rw [withStringsOf_pair length] at listed
      exact .test test named listed
  | @agreement first second _ _ _ _ _ operator word test name pair agrees symbol value =>
      have noQuote : '\'' ∉ word.toList := by
        have listed : ∀ pair ∈ agreements, '\'' ∉ pair.2.toList := by decide
        exact listed _ agrees
      have apart := head?_ne_quote_of_word operator.isWord_name symbol
      have call := (templated_word (noQuote_of_isWord test.isWord_name) name).fixed_seq
        (pairs pair apart)
      have agreement := (templated_word (noQuote_of_isWord operator.isWord_name) symbol).fixed_seq
        (templated_constant noQuote value)
      have whole := call.seq_fixed agreement
      rw [stringsOf_pair] at whole
      refine whole.mono fun texts text rest length
        ⟨middle, ⟨inner, named, listed⟩, truth, compared, valued⟩ => ?_
      rw [withStringsOf_pair length] at listed
      exact .agreement test named listed agrees compared valued
  | @comparison left right _ _ _ _ operator first symbol second =>
      have apart := head?_ne_quote_of_word operator.isWord_name symbol
      have whole := (operands first apart).seq
        ((templated_word (noQuote_of_isWord operator.isWord_name) symbol).fixed_seq
          (operands second ends))
      exact whole.mono fun texts text rest _ ⟨middle, before, inner, compared, after⟩ =>
        .comparison operator before compared after

/-- By induction along the chain, to its last part. -/
theorem isTemplated_chain {keyword : String} (isWord : IsWord keyword) (connective : Connective)
    {part : Phrase Filter} (inside : IsTemplated part Filter.strings Filter.withStrings)
    : IsTemplated (Chain keyword connective.join part) Filter.strings Filter.withStrings := by
  intro filter text rest h ends
  induction h with
  | one spelling => exact (inside spelling ends).mono fun _ _ _ _ spelled => .one spelled
  | @more left right text middle inner rest before joined spelling ih =>
      have apart := head?_ne_quote_of_word isWord joined
      have whole := (ih apart).seq
        ((templated_word (noQuote_of_isWord isWord) joined).fixed_seq (inside spelling ends))
      rw [connective.strings_join]
      refine whole.mono fun texts text rest _ ⟨middle, chained, inner, joins, spelled⟩ => ?_
      rw [connective.withStrings_join]
      exact .more chained joins spelled

theorem isTemplated_disjunctionOf {condition : Phrase Filter}
    (inside : IsTemplated condition Filter.strings Filter.withStrings)
    : IsTemplated (DisjunctionOf condition) Filter.strings Filter.withStrings :=
  isTemplated_chain (isWord_of_joins (by decide)) .or
    (isTemplated_chain (isWord_of_joins (by decide)) .and inside)

/-- By induction on the levels of parentheses. -/
theorem isTemplated_group (nesting : Nat)
    : IsTemplated (SpellsGroup nesting) Filter.strings Filter.withStrings := by
  induction nesting with
  | zero => exact fun _ _ _ h => absurd h id
  | succ nesting ih =>
      exact isTemplated_disjunctionOf (isTemplated_conditionWith (isTemplated_operand nesting)
        (isTemplated_arguments nesting) ih)

theorem isTemplated_condition (nesting : Nat)
    : IsTemplated (SpellsCondition nesting) Filter.strings Filter.withStrings :=
  isTemplated_conditionWith (isTemplated_operand nesting) (isTemplated_arguments nesting)
    (isTemplated_group nesting)

/-- The text of a filter is a template with its string literals, and the template spells the filter
with other literals where they are filled in.
-/
theorem exists_template_of_spells {nesting : Nat} {filter : Filter}
    (h : Spells nesting filter text)
    : ∃ template : Template, filter.strings.length = template.places
        ∧ text = template.fill filter.strings
        ∧ ∀ texts : List String, texts.length = filter.strings.length
          → Spells nesting (filter.withStrings texts) (template.fill texts) := by
  obtain ⟨rest, spelling, nothing⟩ := h
  have apart : rest.head? ≠ some '\'' := by
    intro quote
    obtain ⟨more, rfl⟩ := List.head?_eq_some_iff.mp quote
    rw [afterBlanks_cons (by decide)] at nothing
    cases nothing
  have ending : Templated [] (fun _ text _ => afterBlanks text = []) rest [] :=
    templated_of_spelling [] List.not_mem_nil nothing fun _ _ starts spelled => by
      rw [spelled, List.nil_append]
      exact List.head?_eq_none_iff.mp starts
  have whole := (isTemplated_disjunctionOf (isTemplated_condition nesting) spelling
    apart).seq_fixed ending
  obtain ⟨template, enough, split, spells⟩ := whole
  rw [List.append_nil] at split
  refine ⟨template, enough, split, fun texts length => ?_⟩
  have spelled := spells texts [] length rfl
  rw [List.append_nil] at spelled
  exact spelled

end Grammar

namespace Filter

/-- What the reader takes is a template with the string literals of the filter, and with other
literals the reader takes the filter with those.
-/
theorem exists_template_of_parse {text : String} {filter : Filter} (h : parse text = .ok filter)
    : ∃ template : Template, text.toList = template.fill filter.strings
        ∧ ∀ texts : List String, texts.length = filter.strings.length
          → parse (String.ofList (template.fill texts)) = .ok (filter.withStrings texts) := by
  obtain ⟨spelled, joins⟩ := Scan.run_filter_eq_ok.mp (parse_eq_ok_iff_run.mp h)
  obtain ⟨template, _, split, exchanged⟩ := Grammar.exists_template_of_spells spelled
  refine ⟨template, split, fun texts length =>
    parse_eq_ok_iff_run.mpr (Scan.run_filter_eq_ok.mpr ⟨?_, ?_⟩)⟩
  · rw [String.toList_ofList]
    exact exchanged texts length
  · rw [filter.joins_withStrings]
    exact joins

/-- Quoted text stays within its quotes. What is printed for a text is read back as that text where
no quote follows, and whatever is read stood printed behind white space, directly at the cursor if a
quote stands there. So a text that is read as a filter is a template with the string literals of the
filter in it, and with any other literals it is read as the filter with those and no other change.
-/
theorem parse_exchanges_literals
    : (∀ (before rest : List Char) (t : String) (c : Cursor), rest.head? ≠ some '\''
        → c.IsSound (before ++ ((Operand.literal (.string t)).chars ++ rest))
        → c.position = Text.octetCount before
        → (Reading.quoted (before ++ ((Operand.literal (.string t)).chars ++ rest))).run c
          = .ok (t, c.behind (Operand.literal (.string t)).chars))
      ∧ (∀ (text : List Char) (t : String) (c c' : Cursor), c.IsSound text
        → (Reading.quoted text).run c = .ok (t, c')
        → ∃ before blanks rest, c.position = Text.octetCount before
          ∧ text = before ++ (blanks ++ ((Operand.literal (.string t)).chars ++ rest))
          ∧ (∀ space ∈ blanks, Text.isBlank space = true)
          ∧ (Text.StandsAt text c.position ['\''] → blanks = [])
          ∧ rest.head? ≠ some '\'' ∧ c' = c.behind (blanks ++ (Operand.literal (.string t)).chars))
      ∧ ∀ (text : String) (filter : Filter), parse text = .ok filter
        → filter.withStrings filter.strings = filter
          ∧ ∃ template : Template, text.toList = template.fill filter.strings
            ∧ ∀ texts : List String, texts.length = filter.strings.length
              → parse (String.ofList (template.fill texts)) = .ok (filter.withStrings texts)
                ∧ (filter.withStrings texts).strings = texts := by
  refine ⟨fun before rest t c closes sound count => ?_, fun text t c c' sound read => ?_,
    fun text filter h => ?_⟩
  · exact (Reading.run_quoted_eq_ok sound).mpr
      ⟨before, [], rest, rfl, count.symm, by simp, closes, rfl⟩
  · obtain ⟨before, blanks, rest, split, count, blank, closes, rfl⟩ :=
      (Reading.run_quoted_eq_ok sound).mp read
    exact ⟨before, blanks, rest, count.symm, split, blank,
      Reading.eq_nil_of_standsAt_quote split count blank, closes, rfl⟩
  · obtain ⟨template, split, exchanged⟩ := exists_template_of_parse h
    exact ⟨filter.withStrings_strings, template, split, fun texts length =>
      ⟨exchanged texts length, strings_withStrings length⟩⟩

end Filter

end RecordQuery
