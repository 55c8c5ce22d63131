import RecordQuery.Proofs.Text.Separated
import RecordQuery.Query.Sorting

/-! The texts that list sort keys. A key is spelled by its path and the word of its direction, which
an ascending key may go without. White space may stand around both and divides them, so the texts
that can be read are those that join spellings of keys with one word for a path, and each of them
gives these keys in this order.
-/

namespace RecordQuery

open Text (IsBlanks IsOneWord StopsWord)

-----------------------------------------------------------------------------------------
-- Paths of one word
-----------------------------------------------------------------------------------------

theorem Text.stopsWord_of_isBlanks {text : List Char} (blank : IsBlanks text) : StopsWord text := by
  intro c first
  simp [blank c (List.mem_of_mem_head? first)]

theorem Text.stopsWord_append {blanks : List Char} (blank : IsBlanks blanks) (some : blanks ≠ [])
    (rest : List Char)
    : StopsWord (blanks ++ rest) := by
  obtain ⟨c, others, rfl⟩ := List.exists_cons_of_ne_nil some
  exact Text.stops_cons (by simp [blank c List.mem_cons_self]) _

/-- A word is read as the path that has it as its text. -/
theorem PropertyPath.parse_ofList_eq_ok_iff {word : List Char} (isWord : IsOneWord word)
    {path : PropertyPath}
    : parse (String.ofList word) = .ok path ↔ path.text.toList = word := by
  rw [parse_eq_ok_iff_text_eq, Text.trimmed, String.toList_ofList,
    (Text.isTrimmed_of_forall isWord.2).trim_eq, ← String.toList_inj, String.toList_ofList]

namespace SortKey

variable {text : String} {key : SortKey} {keys : List SortKey} {item : List Char}

-----------------------------------------------------------------------------------------
-- Spellings
-----------------------------------------------------------------------------------------

/-- The spellings of a key: its path, and behind white space the word of its direction, with white
space around. A path alone spells an ascending key.
-/
inductive IsSpelledBy : SortKey → List Char → Prop
  | alone {before after : List Char} (path : PropertyPath) (leading : IsBlanks before)
      (trailing : IsBlanks after)
      : IsSpelledBy ⟨path, .ascending⟩ (before ++ (path.text.toList ++ after))
  | directed {before between after : List Char} (key : SortKey) (leading : IsBlanks before)
      (apart : IsBlanks between) (some : between ≠ []) (trailing : IsBlanks after)
      : IsSpelledBy key
        (before ++ (key.path.text.toList ++ (between ++ (key.direction.name.toList ++ after))))

/-- A key that can stand in a list: neither a comma nor white space is in its path. -/
def IsListable (key : SortKey) : Prop :=
  ∀ c ∈ key.path.text.toList, c ≠ ',' ∧ Text.isBlank c = false

/-- The texts that list keys: spellings of them joined with commas, or white space for no keys. -/
inductive AreListedBy : List SortKey → String → Prop
  | none {text : String} (blank : IsBlanks text.toList) : AreListedBy [] text
  | some {keys : List SortKey} {text : String} (filled : keys ≠ [])
      (joined : Text.Joins ',' IsSpelledBy keys text.toList)
      : AreListedBy keys text

theorem toList_name_ascending : Direction.ascending.name.toList = ['a', 's', 'c'] := rfl

theorem toList_name_descending : Direction.descending.name.toList = ['d', 'e', 's', 'c'] := rfl

/-- A word that names a direction is read as the direction of that name. -/
theorem name_of_known {word : List Char}
    (known : ¬ (word ≠ ['a', 's', 'c'] ∧ word ≠ ['d', 'e', 's', 'c']))
    : (if word = ['a', 's', 'c'] then Direction.ascending else .descending).name.toList = word := by
  split
  · next ascending => exact ascending.symm
  · next other =>
      by_contra unknown
      exact known ⟨other, fun descending => unknown descending.symm⟩

theorem isOneWord_directionName (direction : Direction) : IsOneWord direction.name.toList := by
  cases direction with
  | ascending => decide
  | descending => decide

theorem IsListable.isOneWord (listable : key.IsListable) : IsOneWord key.path.text.toList :=
  ⟨String.toList_eq_nil_iff.not.mpr key.path.text_ne_empty, fun c member => (listable c member).2⟩

-----------------------------------------------------------------------------------------
-- Words of items
-----------------------------------------------------------------------------------------

/-- The words of an item are the path and, unless it is left out, the direction of a key. -/
def HasWords (key : SortKey) (item : List Char) : Prop :=
  Text.words item = [key.path.text.toList, key.direction.name.toList]
    ∨ Text.words item = [key.path.text.toList] ∧ key.direction = .ascending

/-- An item spells a key whose path is one word exactly where it has the words of the key. -/
theorem isSpelledBy_iff_hasWords (isWord : IsOneWord key.path.text.toList)
    : key.IsSpelledBy item ↔ key.HasWords item := by
  constructor
  · intro spelled
    cases spelled with
    | alone path leading trailing =>
        refine .inr ⟨?_, rfl⟩
        rw [Text.words_blanks_append leading,
          Text.words_append_of_stops isWord (Text.stopsWord_of_isBlanks trailing),
          Text.words_of_isBlanks trailing]
    | directed key leading apart some trailing =>
        refine .inl ?_
        rw [Text.words_blanks_append leading,
          Text.words_append_of_stops isWord (Text.stopsWord_append apart some _),
          Text.words_blanks_append apart,
          Text.words_append_of_stops (isOneWord_directionName _)
            (Text.stopsWord_of_isBlanks trailing),
          Text.words_of_isBlanks trailing]
  · rintro (words | ⟨words, ascending⟩)
    · obtain ⟨before, _, rfl, leading, _, stops, others⟩ := Text.words_eq_cons_iff.mp words
      obtain ⟨between, after, rfl, apart, named, _, none⟩ := Text.words_eq_cons_iff.mp others
      refine .directed key leading apart ?_ (Text.words_eq_nil_iff.mp none)
      -- without white space between them the path and the direction would be one word
      rintro rfl
      obtain ⟨c, letters, name⟩ := List.exists_cons_of_ne_nil named.1
      have letter : Text.isBlank c = false := named.2 c (name ▸ List.mem_cons_self)
      have blank := stops c (by rw [name]; rfl)
      simp [letter] at blank
    · obtain ⟨before, after, rfl, leading, _, _, none⟩ := Text.words_eq_cons_iff.mp words
      obtain ⟨path, direction⟩ := key
      subst ascending
      exact .alone path leading (Text.words_eq_nil_iff.mp none)

/-- A key is read from the items that have its words. -/
theorem parseItem_eq_ok_iff : parseItem text item = .ok key ↔ key.HasWords item := by
  constructor
  · intro read
    unfold parseItem at read
    dsimp only at read
    split at read
    · cases read
    · next word words =>
        split at read
        · next path parsed =>
            cases read
            have path :=
              (PropertyPath.parse_ofList_eq_ok_iff (Text.isOneWord_of_words words)).mp parsed
            exact .inr ⟨by rw [words, path], rfl⟩
        · cases read
    · next word direction rest words =>
        split at read
        · cases read
        · next known =>
            split at read
            · cases read
            · split at read
              · next path parsed =>
                  cases read
                  have path :=
                    (PropertyPath.parse_ofList_eq_ok_iff (Text.isOneWord_of_words words)).mp parsed
                  exact .inl (by rw [words, path, name_of_known known])
              · cases read
  · intro hasWords
    unfold parseItem
    rcases hasWords with words | ⟨words, ascending⟩
    · rw [words]
      obtain ⟨path, direction⟩ := key
      cases direction with
      | ascending => simp [PropertyPath.parse_text, toList_name_ascending]
      | descending => simp [PropertyPath.parse_text, toList_name_descending]
    · rw [words]
      simp [PropertyPath.parse_text, ← ascending]

-----------------------------------------------------------------------------------------
-- Lists
-----------------------------------------------------------------------------------------

/-- No comma stands in what spells a key that can stand in a list. -/
theorem IsSpelledBy.not_mem_comma (spelled : key.IsSpelledBy item) (listable : key.IsListable)
    : ',' ∉ item := by
  have outside {blanks : List Char} (blank : IsBlanks blanks) : ',' ∉ blanks :=
    blank.not_mem (by decide)
  have path : ',' ∉ key.path.text.toList := fun comma => (listable ',' comma).1 rfl
  cases spelled with
  | alone _ leading trailing =>
      simp only [List.mem_append, not_or]
      exact ⟨outside leading, path, outside trailing⟩
  | directed _ leading apart _ trailing =>
      have name : ',' ∉ key.direction.name.toList := by
        cases key.direction <;> decide
      simp only [List.mem_append, not_or]
      exact ⟨outside leading, path, outside apart, name, outside trailing⟩

/-- The key that has the words of an item without a comma can stand in a list. -/
theorem HasWords.isListable (hasWords : key.HasWords item) (separate : ',' ∉ item)
    : key.IsListable := by
  obtain ⟨others, words⟩ : ∃ others, Text.words item = key.path.text.toList :: others :=
    hasWords.elim (fun words => ⟨_, words⟩) (fun words => ⟨_, words.1⟩)
  obtain ⟨before, rest, rfl, _, isWord, _⟩ := Text.words_eq_cons_iff.mp words
  intro c member
  refine ⟨?_, isWord.2 c member⟩
  rintro rfl
  exact separate (List.mem_append_right _ (List.mem_append_left _ member))

/-- The keys that can stand in a list are spelled by the items without a comma from which they are
read.
-/
theorem isListable_isSpelledBy_iff (item : List Char) (key : SortKey)
    : key.IsListable ∧ key.IsSpelledBy item
      ↔ ',' ∉ item ∧ parseItem text item = .ok key := by
  rw [parseItem_eq_ok_iff]
  constructor
  · rintro ⟨listable, spelled⟩
    exact ⟨spelled.not_mem_comma listable, (isSpelledBy_iff_hasWords listable.isOneWord).mp spelled⟩
  · rintro ⟨separate, hasWords⟩
    have listable := hasWords.isListable separate
    exact ⟨listable, (isSpelledBy_iff_hasWords listable.isOneWord).mpr hasWords⟩

/-- No key is read from white space. -/
theorem not_isBlanks_of_parseItem (read : parseItem text item = .ok key) : ¬ IsBlanks item := by
  intro blank
  have none : Text.words item = [] := Text.words_of_isBlanks blank
  rcases parseItem_eq_ok_iff.mp read with words | ⟨words, _⟩
  · cases none.symm.trans words
  · cases none.symm.trans words

/-- Keys are read from the texts that list them and from no others, and can all stand in a list: no
key is dropped, merged with another or moved.
-/
theorem parse_eq_ok_iff_areListedBy
    : parse text = .ok keys ↔ (∀ key ∈ keys, key.IsListable) ∧ AreListedBy keys text := by
  have read : (text.toList.splitOn ',').mapM (parseItem text) = .ok keys
      ↔ keys ≠ [] ∧ (∀ key ∈ keys, key.IsListable) ∧ Text.Joins ',' IsSpelledBy keys text.toList :=
    (Text.mapM_splitOn_eq_ok_iff isListable_isSpelledBy_iff).trans
      (and_congr_right' Text.joins_and_iff)
  unfold parse
  split
  · next allBlank =>
      have blank := Text.isAllBlank_iff.mp allBlank
      constructor
      · intro none
        cases none
        exact ⟨List.forall_mem_nil _, .none blank⟩
      · rintro ⟨listable, none | ⟨filled, joined⟩⟩
        · rfl
        · -- the text would be one item of white space
          have parsed := read.mpr ⟨filled, listable, joined⟩
          rw [List.splitOn_eq_singleton (blank.not_mem (by decide)), mapM_eq_ok_iff,
            List.forall₂_cons_left_iff] at parsed
          obtain ⟨key, _, item, _⟩ := parsed
          exact absurd blank (not_isBlanks_of_parseItem item)
  · next visible =>
      rw [read]
      constructor
      · rintro ⟨filled, listable, joined⟩
        exact ⟨listable, .some filled joined⟩
      · rintro ⟨listable, blank | ⟨filled, joined⟩⟩
        · exact absurd (Text.isAllBlank_iff.mpr blank) visible
        · exact ⟨filled, listable, joined⟩

end SortKey

end RecordQuery
