import Mathlib.Data.List.Forall2
import Mathlib.Data.List.TakeWhile
import RecordQuery.Proofs.Except
import RecordQuery.Proofs.Path.Spelling
import RecordQuery.Proofs.Text.Runs

/-! Texts in parts: a trimmed text with white space around it, words with white space between them,
and items with separators between them. Each way of reading the parts is told by an equivalence
that says how a text with these parts is put together.
-/

namespace RecordQuery.Text

/-- Nothing but white space, or nothing at all. -/
def IsBlanks (text : List Char) : Prop :=
  ∀ c ∈ text, isBlank c = true

instance (text : List Char) : Decidable (IsBlanks text) :=
  List.decidableBAll _ text

/-- Some characters, none of them white space. -/
def IsOneWord (word : List Char) : Prop :=
  word ≠ [] ∧ ∀ c ∈ word, isBlank c = false

instance (word : List Char) : Decidable (IsOneWord word) :=
  have := List.decidableBAll (isBlank · = false) word
  inferInstanceAs (Decidable (_ ∧ _))

/-- No character of a word comes next, so a word may end here. -/
abbrev StopsWord (rest : List Char) : Prop :=
  Stops (fun c => !isBlank c) rest

/-- Items that spell some things, joined with a separator between them. -/
def Joins (separator : Char) (spells : α → List Char → Prop) (things : List α) (text : List Char)
    : Prop :=
  ∃ items, List.Forall₂ (fun item thing => spells thing item) items things
    ∧ text = [separator].intercalate items

theorem isAllBlank_iff {s : String} : isAllBlank s = true ↔ IsBlanks s.toList :=
  List.all_eq_true

theorem isBlanks_nil : IsBlanks [] :=
  fun _ member => absurd member List.not_mem_nil

theorem IsBlanks.not_mem {text : List Char} {c : Char} (blank : IsBlanks text)
    (visible : isBlank c = false)
    : c ∉ text :=
  fun inside => absurd (blank c inside) (by simp [visible])

-----------------------------------------------------------------------------------------
-- White space around a text
-----------------------------------------------------------------------------------------

/-- White space is all that trimming leaves out. -/
theorem exists_blanks_around (text : List Char)
    : ∃ before after, IsBlanks before ∧ IsBlanks after ∧ text = before ++ (trim text ++ after) := by
  refine ⟨text.takeWhile isBlank, ((text.dropWhile isBlank).reverse.takeWhile isBlank).reverse,
    fun _ member => of_mem_takeWhile member,
    fun _ member => of_mem_takeWhile (List.mem_reverse.mp member), ?_⟩
  rw [trim, trimEnd, ← List.reverse_append, List.takeWhile_append_dropWhile, List.reverse_reverse,
    List.takeWhile_append_dropWhile]

theorem trimEnd_append_blanks {after : List Char} (blank : IsBlanks after) (text : List Char)
    : trimEnd (text ++ after) = trimEnd text := by
  rw [trimEnd, List.reverse_append,
    List.dropWhile_append_of_pos fun c member => blank c (List.mem_reverse.mp member), trimEnd]

/-- White space around a text is left out with its own. -/
theorem trim_between {before after : List Char} (blank : IsBlanks before) (blank' : IsBlanks after)
    (text : List Char)
    : trim (before ++ (text ++ after)) = trim text := by
  rw [trim, List.dropWhile_append_of_pos blank, List.dropWhile_append]
  split
  · next empty =>
      rw [List.dropWhile_eq_nil_iff.mpr blank', trim, List.isEmpty_iff.mp empty]
  · exact trimEnd_append_blanks blank' _

/-- A trimmed text is what is left of the texts with white space around it. -/
theorem trim_eq_iff {inner : List Char} (isTrimmed : IsTrimmed inner) (text : List Char)
    : trim text = inner
      ↔ ∃ before after, IsBlanks before ∧ IsBlanks after ∧ text = before ++ (inner ++ after) := by
  constructor
  · rintro rfl
    exact exists_blanks_around text
  · rintro ⟨before, after, blank, blank', rfl⟩
    rw [trim_between blank blank', isTrimmed.trim_eq]

-----------------------------------------------------------------------------------------
-- Words between white space
-----------------------------------------------------------------------------------------

/-- White space divides words. -/
theorem words_append_cons {c : Char} (blank : isBlank c = true) (before after : List Char)
    : words (before ++ c :: after) = words before ++ words after := by
  rw [words, List.splitOnP_append_cons before after blank, List.filter_append]
  rfl

theorem words_of_isBlanks {text : List Char} (blank : IsBlanks text) : words text = [] := by
  induction text with
  | nil => rfl
  | cons c rest ih =>
      obtain ⟨first, others⟩ := List.forall_mem_cons.mp blank
      exact (words_append_cons first [] rest).trans (ih others)

/-- White space in front belongs to no word. -/
theorem words_blanks_append {before : List Char} (blank : IsBlanks before) (text : List Char)
    : words (before ++ text) = words text := by
  induction before with
  | nil => rfl
  | cons c rest ih =>
      obtain ⟨first, others⟩ := List.forall_mem_cons.mp blank
      exact (words_append_cons first [] (rest ++ text)).trans (ih others)

/-- A word is read in front of a text that stops it. -/
theorem words_append_of_stops {word rest : List Char} (isWord : IsOneWord word)
    (stops : StopsWord rest)
    : words (word ++ rest) = word :: words rest := by
  have alone : words word = [word] := by
    rw [words, List.splitOnP_eq_singleton isWord.2]
    simp [isWord.1]
  cases rest with
  | nil => rw [List.append_nil, alone, words_of_isBlanks isBlanks_nil]
  | cons c rest =>
      have blank : isBlank c = true := by simpa using stops c rfl
      rw [words_append_cons blank, alone]
      exact congrArg (word :: ·) (words_append_cons blank [] rest).symm

/-- A text that is not only white space starts with white space, a word and what stops it. -/
theorem exists_word {text : List Char} (visible : ¬ IsBlanks text)
    : ∃ before word rest, text = before ++ (word ++ rest) ∧ IsBlanks before ∧ IsOneWord word
        ∧ StopsWord rest := by
  have start : text.dropWhile isBlank ≠ [] := fun none =>
    visible (List.dropWhile_eq_nil_iff.mp none)
  obtain ⟨c, others, shown⟩ := List.exists_cons_of_ne_nil start
  have first : isBlank c = false := head?_dropWhile_eq_false isBlank text c (by simp [shown])
  refine ⟨text.takeWhile isBlank, (c :: others).takeWhile (fun c => !isBlank c),
    (c :: others).dropWhile (fun c => !isBlank c), ?_, fun _ member => of_mem_takeWhile member,
    ⟨by simp [first], fun d member => by simpa using of_mem_takeWhile member⟩,
    stops_dropWhile _ _⟩
  rw [List.takeWhile_append_dropWhile, ← shown, List.takeWhile_append_dropWhile]

theorem words_eq_nil_iff {text : List Char} : words text = [] ↔ IsBlanks text := by
  refine ⟨fun none => ?_, words_of_isBlanks⟩
  by_contra visible
  obtain ⟨before, word, rest, rfl, blank, isWord, stops⟩ := exists_word visible
  rw [words_blanks_append blank, words_append_of_stops isWord stops] at none
  cases none

/-- The first word is behind the leading white space, and the others are in what stops it. -/
theorem words_eq_cons_iff {text word : List Char} {others : List (List Char)}
    : words text = word :: others
      ↔ ∃ before rest, text = before ++ (word ++ rest) ∧ IsBlanks before ∧ IsOneWord word
        ∧ StopsWord rest ∧ words rest = others := by
  constructor
  · intro read
    have visible : ¬ IsBlanks text := fun blank => by simp [words_of_isBlanks blank] at read
    obtain ⟨before, first, rest, rfl, blank, isWord, stops⟩ := exists_word visible
    rw [words_blanks_append blank, words_append_of_stops isWord stops] at read
    cases read
    exact ⟨before, rest, rfl, blank, isWord, stops, rfl⟩
  · rintro ⟨before, rest, rfl, blank, isWord, stops, rfl⟩
    rw [words_blanks_append blank, words_append_of_stops isWord stops]

theorem isOneWord_of_words {text word : List Char} {others : List (List Char)}
    (read : words text = word :: others)
    : IsOneWord word := by
  obtain ⟨_, _, _, _, isWord, _⟩ := words_eq_cons_iff.mp read
  exact isWord

-----------------------------------------------------------------------------------------
-- Items between separators
-----------------------------------------------------------------------------------------

/-- No separator stands in the parts between separators. -/
theorem not_mem_of_mem_splitOn {separator : Char} {text piece : List Char}
    (found : piece ∈ text.splitOn separator)
    : separator ∉ piece :=
  fun inside => (mem_of_mem_splitOn found inside).2 rfl

/-- What is in front of a text belongs to its first part. -/
theorem splitOn_append_left {separator : Char} {before : List Char} (outside : separator ∉ before)
    (text : List Char)
    : (before ++ text).splitOn separator = (text.splitOn separator).modifyHead (before ++ ·) := by
  induction before with
  | nil => exact (congrFun List.modifyHead_id _).symm
  | cons c rest ih =>
      obtain ⟨other, others⟩ := not_or.mp (List.mem_cons.not.mp outside)
      rw [List.cons_append, List.splitOn_cons_eq_if_modifyHead, if_neg (by simp [Ne.symm other]),
        ih others, List.modifyHead_modifyHead]
      rfl

/-- What is behind a text belongs to its last part, by induction on the text in front. -/
theorem exists_splitOn_append_right {separator : Char} {after : List Char}
    (outside : separator ∉ after) (text : List Char)
    : ∃ parts last, text.splitOn separator = parts ++ [last]
        ∧ (text ++ after).splitOn separator = parts ++ [last ++ after] := by
  induction text with
  | nil =>
      exact ⟨[], [], List.splitOn_nil separator, List.splitOn_eq_singleton outside⟩
  | cons c rest ih =>
      obtain ⟨parts, last, alone, behind⟩ := ih
      rw [List.cons_append, List.splitOn_cons_eq_if_modifyHead,
        List.splitOn_cons_eq_if_modifyHead, alone, behind]
      split
      · exact ⟨[] :: parts, last, rfl, rfl⟩
      · cases parts with
        | nil => exact ⟨[], c :: last, rfl, rfl⟩
        | cons first others => exact ⟨(c :: first) :: others, last, rfl, rfl⟩

/-- Trimming the whole of a text changes nothing where each of its parts is trimmed. -/
theorem map_trim_splitOn_trim {separator : Char} (visible : isBlank separator = false)
    (text : List Char)
    : ((trim text).splitOn separator).map trim = (text.splitOn separator).map trim := by
  obtain ⟨before, after, blank, blank', around⟩ := exists_blanks_around text
  obtain ⟨parts, last, alone, behind⟩ :=
    exists_splitOn_append_right (blank'.not_mem visible) (trim text)
  have trailing : trim (last ++ after) = trim last := trim_between isBlanks_nil blank' last
  conv_rhs => rw [around]
  rw [splitOn_append_left (blank.not_mem visible), behind, alone]
  cases parts with
  | nil =>
      have both : trim (before ++ (last ++ after)) = trim last := trim_between blank blank' last
      simp [both]
  | cons first others =>
      have leading : trim (before ++ first) = trim first := by
        simpa using trim_between blank isBlanks_nil first
      simp [leading, trailing]

/-- What holds of all things is said apart from what the items spell. -/
theorem joins_and_iff {holds : α → Prop} {spells : α → List Char → Prop} {separator : Char}
    {things : List α} {text : List Char}
    : Joins separator (fun thing item => holds thing ∧ spells thing item) things text
      ↔ (∀ thing ∈ things, holds thing) ∧ Joins separator spells things text := by
  have apart (items : List (List Char))
      : List.Forall₂ (fun item thing => holds thing ∧ spells thing item) items things
        ↔ (∀ thing ∈ things, holds thing)
          ∧ List.Forall₂ (fun item thing => spells thing item) items things := by
    have swapped := List.forall₂_and_left (p := holds) (R := spells) things items
    exact ⟨fun both => (swapped.mp both.flip).imp_right .flip,
      fun both => .flip (swapped.mpr (both.imp_right .flip))⟩
  simp only [Joins, apart, and_assoc, exists_and_left]

/-- Items are read one by one from a text that joins what spells them, where an item spells what is
read from it and holds no separator.
-/
theorem mapM_splitOn_eq_ok_iff {read : List Char → Except ε α} {spells : α → List Char → Prop}
    {separator : Char}
    (reads : ∀ item thing, spells thing item ↔ separator ∉ item ∧ read item = .ok thing)
    {text : List Char} {things : List α}
    : (text.splitOn separator).mapM read = .ok things
      ↔ things ≠ [] ∧ Joins separator spells things text := by
  have spelled (items : List (List Char))
      : List.Forall₂ (fun item thing => spells thing item) items things
        ↔ (∀ item ∈ items, separator ∉ item) ∧ items.mapM read = .ok things := by
    simp only [reads, mapM_eq_ok_iff, List.forall₂_and_left]
  constructor
  · intro read
    refine ⟨fun none => ?_, text.splitOn separator,
      (spelled _).mpr ⟨fun _ => not_mem_of_mem_splitOn, read⟩,
      (List.intercalate_splitOn separator).symm⟩
    rw [none, mapM_eq_ok_iff, List.forall₂_nil_right_iff] at read
    exact List.splitOn_ne_nil separator text read
  · rintro ⟨some, items, joined, rfl⟩
    obtain ⟨separate, read⟩ := (spelled items).mp joined
    have filled : items ≠ [] := by
      rintro rfl
      exact some (List.forall₂_nil_left_iff.mp joined)
    rw [List.splitOn_intercalate separator separate filled, read]

end RecordQuery.Text
