import RecordQuery.Proofs.Filter.Parsing
import RecordQuery.Proofs.Filter.Reassociation

/-! Filter texts with the string literals left open. A template is the text between the literals, in
which no quote stands, and the literals of an operand or a filter can be exchanged from left to
right. Phrases in a row make one template of theirs, because what a phrase may see of the text
behind it does not depend on what is quoted there.
-/

namespace RecordQuery

-----------------------------------------------------------------------------------------
-- The string literals of operands and filters
-----------------------------------------------------------------------------------------

namespace Operand

/-- The string literals of an operand, from left to right. -/
def strings : Operand → List String
  | .literal (.string s) => [s]
  | .literal _ | .property _ => []
  | .unary _ argument => argument.strings
  | .binary _ first second => first.strings ++ second.strings
  | .ternary _ first second third => first.strings ++ (second.strings ++ third.strings)

/-- The operand with other string literals, from left to right. -/
def withStrings : Operand → List String → Operand
  | .literal (.string s), texts => .literal (.string (texts.headD s))
  | .literal value, _ => .literal value
  | .property path, _ => .property path
  | .unary function argument, texts => .unary function (argument.withStrings texts)
  | .binary function first second, texts =>
    .binary function (first.withStrings (texts.take first.strings.length))
      (second.withStrings (texts.drop first.strings.length))
  | .ternary function first second third, texts =>
    .ternary function (first.withStrings (texts.take first.strings.length))
      (second.withStrings ((texts.drop first.strings.length).take second.strings.length))
      (third.withStrings ((texts.drop first.strings.length).drop second.strings.length))

/-- The string literals of some operands. -/
def stringsOf : List Operand → List String
  | [] => []
  | first :: others => first.strings ++ stringsOf others

/-- Operands with other string literals. -/
def withStringsOf : List Operand → List String → List Operand
  | [], _ => []
  | first :: others, texts =>
    first.withStrings (texts.take first.strings.length)
      :: withStringsOf others (texts.drop first.strings.length)

end Operand

namespace Filter

/-- The string literals of a filter, from left to right. -/
def strings : Filter → List String
  | .comparison _ left right => left.strings ++ right.strings
  | .stringTest _ first second => first.strings ++ second.strings
  | .and left right | .or left right => left.strings ++ right.strings

/-- The filter with other string literals, from left to right. -/
def withStrings : Filter → List String → Filter
  | .comparison operator left right, texts =>
    .comparison operator (left.withStrings (texts.take left.strings.length))
      (right.withStrings (texts.drop left.strings.length))
  | .stringTest test first second, texts =>
    .stringTest test (first.withStrings (texts.take first.strings.length))
      (second.withStrings (texts.drop first.strings.length))
  | .and left right, texts =>
    .and (left.withStrings (texts.take left.strings.length))
      (right.withStrings (texts.drop left.strings.length))
  | .or left right, texts =>
    .or (left.withStrings (texts.take left.strings.length))
      (right.withStrings (texts.drop left.strings.length))

end Filter

theorem Connective.strings_join (connective : Connective) (left right : Filter)
    : (connective.join left right).strings = left.strings ++ right.strings := by
  cases connective <;> rfl

theorem Connective.withStrings_join (connective : Connective) (left right : Filter)
    (texts : List String)
    : (connective.join left right).withStrings texts
      = connective.join (left.withStrings (texts.take left.strings.length))
        (right.withStrings (texts.drop left.strings.length)) := by
  cases connective <;> rfl

/-- The literals that are put into an operand are those it has then. -/
theorem Operand.strings_withStrings {operand : Operand} {texts : List String}
    (h : texts.length = operand.strings.length)
    : (operand.withStrings texts).strings = texts := by
  induction operand generalizing texts with
  | property path => exact (List.length_eq_zero_iff.mp h).symm
  | literal value =>
      cases value with
      | string s =>
          obtain ⟨t, rfl⟩ := List.length_eq_one_iff.mp h
          rfl
      | _ => exact (List.length_eq_zero_iff.mp h).symm
  | unary function argument ih => exact ih h
  | binary function first second before after =>
      rw [strings, List.length_append] at h
      rw [withStrings, strings, before (by rw [List.length_take]; omega),
        after (by rw [List.length_drop]; omega), List.take_append_drop]
  | ternary function first second third before between after =>
      simp only [strings, List.length_append] at h
      rw [withStrings, strings, before (by rw [List.length_take]; omega),
        between (by rw [List.length_take, List.length_drop]; omega),
        after (by rw [List.length_drop, List.length_drop]; omega), List.take_append_drop,
        List.take_append_drop]

theorem Filter.strings_withStrings {filter : Filter} {texts : List String}
    (h : texts.length = filter.strings.length)
    : (filter.withStrings texts).strings = texts := by
  induction filter generalizing texts with
  | comparison operator left right =>
      rw [strings, List.length_append] at h
      rw [withStrings, strings, Operand.strings_withStrings (by rw [List.length_take]; omega),
        Operand.strings_withStrings (by rw [List.length_drop]; omega), List.take_append_drop]
  | stringTest test first second =>
      rw [strings, List.length_append] at h
      rw [withStrings, strings, Operand.strings_withStrings (by rw [List.length_take]; omega),
        Operand.strings_withStrings (by rw [List.length_drop]; omega), List.take_append_drop]
  | and left right before after | or left right before after =>
      rw [strings, List.length_append] at h
      rw [withStrings, strings, before (by rw [List.length_take]; omega),
        after (by rw [List.length_drop]; omega), List.take_append_drop]

/-- With its own literals, an operand is the same. -/
theorem Operand.withStrings_strings (operand : Operand)
    : operand.withStrings operand.strings = operand := by
  induction operand with
  | property path => rfl
  | literal value => cases value <;> rfl
  | unary function argument ih => rw [strings, withStrings, ih]
  | binary function first second before after =>
      rw [strings, withStrings, List.take_left, List.drop_left, before, after]
  | ternary function first second third before between after =>
      rw [strings, withStrings, List.take_left, List.drop_left, List.take_left, List.drop_left,
        before, between, after]

theorem Filter.withStrings_strings (filter : Filter)
    : filter.withStrings filter.strings = filter := by
  induction filter with
  | comparison operator left right =>
      rw [strings, withStrings, List.take_left, List.drop_left, Operand.withStrings_strings,
        Operand.withStrings_strings]
  | stringTest test first second =>
      rw [strings, withStrings, List.take_left, List.drop_left, Operand.withStrings_strings,
        Operand.withStrings_strings]
  | and left right before after | or left right before after =>
      rw [strings, withStrings, List.take_left, List.drop_left, before, after]

/-- Other literals do not change how many joins a filter has. -/
theorem Filter.joins_withStrings (filter : Filter) (texts : List String)
    : (filter.withStrings texts).joins = filter.joins := by
  induction filter generalizing texts with
  | comparison => rfl
  | stringTest => rfl
  | and left right before after | or left right before after =>
      rw [withStrings, joins, joins, before, after]

-----------------------------------------------------------------------------------------
-- Templates
-----------------------------------------------------------------------------------------

/-- A text with places for string literals, and no quote between them. -/
inductive Template where
  | last (text : List Char) (noQuote : '\'' ∉ text)
  | literal (text : List Char) (noQuote : '\'' ∉ text) (behind : Template)

namespace Template

/-- How many places there are. -/
def places : Template → Nat
  | .last .. => 0
  | .literal _ _ behind => behind.places + 1

/-- The text with literals quoted at the places, from left to right. -/
def fill : Template → List String → List Char
  | .last text _, _ => text
  | .literal text _ behind, literals =>
    match literals with
    | [] => text
    | s :: others => text ++ (Text.quoted s ++ behind.fill others)

/-- The template behind some more text without quotes. -/
def behindText (text : List Char) (noQuote : '\'' ∉ text) : Template → Template
  | .last ending noQuote' => .last (text ++ ending) (by simp [noQuote, noQuote'])
  | .literal start noQuote' behind => .literal (text ++ start) (by simp [noQuote, noQuote']) behind

/-- Two templates in a row. -/
def append : Template → Template → Template
  | .last text noQuote, after => after.behindText text noQuote
  | .literal text noQuote behind, after => .literal text noQuote (behind.append after)

variable {template after : Template} {literals others : List String}

theorem places_behindText {text : List Char} {noQuote : '\'' ∉ text}
    : (template.behindText text noQuote).places = template.places := by
  cases template <;> rfl

theorem fill_behindText {text : List Char} {noQuote : '\'' ∉ text}
    : (template.behindText text noQuote).fill literals = text ++ template.fill literals := by
  cases template with
  | last => rfl
  | literal => cases literals <;> simp [behindText, fill]

theorem places_append : (template.append after).places = template.places + after.places := by
  induction template with
  | last => rw [append, places_behindText, places, Nat.zero_add]
  | literal text noQuote behind ih =>
      rw [append, places, ih, places]
      omega

/-- The first literals are quoted in the first template and the others in the second. -/
theorem fill_append (enough : literals.length = template.places)
    : (template.append after).fill (literals ++ others)
      = template.fill literals ++ after.fill others := by
  induction template generalizing literals with
  | last =>
      rw [List.length_eq_zero_iff.mp enough, List.nil_append, append, fill_behindText, fill]
  | literal text noQuote behind ih =>
      obtain ⟨s, literals, rfl⟩ := List.exists_cons_of_length_eq_add_one enough
      rw [append, List.cons_append, fill, fill]
      rw [ih (by simpa [places] using enough)]
      simp only [List.append_assoc]

/-- Whatever is quoted at the places, the text starts with the same character. -/
theorem head?_fill_append {rest rest' : List Char} (enough : literals.length = template.places)
    (enough' : others.length = template.places) (starts : rest'.head? = rest.head?)
    : (template.fill others ++ rest').head? = (template.fill literals ++ rest).head? := by
  cases template with
  | last text =>
      rw [fill, fill, List.head?_append, List.head?_append, starts]
  | literal text noQuote behind =>
      obtain ⟨s, literals, rfl⟩ := List.exists_cons_of_length_eq_add_one enough
      obtain ⟨t, others, rfl⟩ := List.exists_cons_of_length_eq_add_one enough'
      cases text <;> rfl

end Template

-----------------------------------------------------------------------------------------
-- What is spelled by templates
-----------------------------------------------------------------------------------------

/-- A text is spelled by a template with some literals in it, in front of a rest. The template
spells as much with other literals in it, in front of every rest that starts with the same character.
-/
def Templated (literals : List String) (spells : List String → List Char → List Char → Prop)
    (text rest : List Char)
    : Prop :=
  ∃ template : Template, literals.length = template.places
    ∧ text = template.fill literals ++ rest
    ∧ ∀ texts rest', texts.length = literals.length → rest'.head? = rest.head?
      → spells texts (template.fill texts ++ rest') rest'

namespace Templated

variable {literals others : List String} {p q : List String → List Char → List Char → Prop}
  {text middle rest : List Char}

theorem mono (h : Templated literals p text rest)
    (imp : ∀ texts text rest, texts.length = literals.length → p texts text rest
      → q texts text rest)
    : Templated literals q text rest := by
  obtain ⟨template, enough, split, spells⟩ := h
  exact ⟨template, enough, split,
    fun texts rest' length starts => imp _ _ _ length (spells texts rest' length starts)⟩

/-- What is spelled in a row is spelled by one template. -/
theorem seq (before : Templated literals p text middle) (after : Templated others q middle rest)
    : Templated (literals ++ others)
        (fun texts text rest => ∃ middle, p (texts.take literals.length) text middle
          ∧ q (texts.drop literals.length) middle rest)
        text rest := by
  obtain ⟨first, enough, rfl, spells⟩ := before
  obtain ⟨second, enough', rfl, spells'⟩ := after
  refine ⟨first.append second, ?_, ?_, fun texts rest' length starts => ?_⟩
  · rw [List.length_append, enough, enough', Template.places_append]
  · rw [Template.fill_append enough, List.append_assoc]
  · rw [List.length_append] at length
    have front : (texts.take literals.length).length = literals.length := by
      rw [List.length_take]
      omega
    have more : (texts.drop literals.length).length = others.length := by
      rw [List.length_drop]
      omega
    have filled : (first.append second).fill texts ++ rest'
        = first.fill (texts.take literals.length)
          ++ (second.fill (texts.drop literals.length) ++ rest') := by
      rw [← List.append_assoc, ← Template.fill_append (front.trans enough), List.take_append_drop]
    rw [filled]
    exact ⟨_, spells _ _ front
        (Template.head?_fill_append enough' (more.trans enough') starts),
      spells' _ _ more starts⟩

/-- What is spelled without literals may stand in front. -/
theorem fixed_seq {p : List Char → List Char → Prop}
    (before : Templated [] (fun _ => p) text middle) (after : Templated literals q middle rest)
    : Templated literals (fun texts text rest => ∃ middle, p text middle ∧ q texts middle rest)
        text rest :=
  before.seq after

theorem seq_fixed {q : List Char → List Char → Prop} (before : Templated literals p text middle)
    (after : Templated [] (fun _ => q) middle rest)
    : Templated literals (fun texts text rest => ∃ middle, p texts text middle ∧ q middle rest)
        text rest := by
  have whole := before.seq after
  rw [List.append_nil] at whole
  refine whole.mono fun texts text rest length ⟨middle, spelled, ended⟩ => ⟨middle, ?_, ended⟩
  rw [List.take_of_length_le (Nat.le_of_eq length)] at spelled
  exact spelled

/-- A text without quotes is a template without places. -/
theorem of_text {fixed : List Char} (noQuote : '\'' ∉ fixed)
    (spells : ∀ rest' : List Char, rest'.head? = rest.head? → p [] (fixed ++ rest') rest')
    : Templated [] p (fixed ++ rest) rest := by
  refine ⟨.last fixed noQuote, rfl, rfl, fun texts rest' length starts => ?_⟩
  rw [List.length_eq_zero_iff.mp length]
  exact spells rest' starts

/-- A quoted text is a place for a literal. -/
theorem of_quoted {fixed : List Char} {s : String} (noQuote : '\'' ∉ fixed)
    (spells : ∀ (t : String) (rest' : List Char), rest'.head? = rest.head?
      → p [t] (fixed ++ (Text.quoted t ++ rest')) rest')
    : Templated [s] p (fixed ++ (Text.quoted s ++ rest)) rest := by
  refine ⟨.literal fixed noQuote (.last [] List.not_mem_nil), rfl, by simp [Template.fill],
    fun texts rest' length starts => ?_⟩
  obtain ⟨t, rfl⟩ := List.length_eq_one_iff.mp length
  simpa [Template.fill] using spells t rest' starts

end Templated

end RecordQuery
