import Mathlib.Data.List.Induction
import RecordQuery.Proofs.Text.Separated
import RecordQuery.Query.Selection

/-! The texts that list paths to project on. A path is spelled by its text with white space around
it, and may hold white space inside. A path that is listed again is left out, and the paths that are
read list themselves when they are joined with commas.
-/

namespace RecordQuery

open Text (IsBlanks)

-----------------------------------------------------------------------------------------
-- First occurrences
-----------------------------------------------------------------------------------------

namespace Text

/-- Keeping the items that do not occur before keeps the first of those that are equal, by induction
from the last item.
-/
theorem firstOccurrences_eq_eraseDups [DecidableEq α] (items : List α)
    : firstOccurrences items = items.eraseDups := by
  induction items using List.reverseRecOn with
  | nil => rfl
  | append_singleton items last ih =>
      rw [firstOccurrences_concat, List.eraseDups_append, ih]
      by_cases seen : last ∈ items
      · simp [seen, List.removeAll]
      · simp [seen, List.removeAll, List.eraseDups_cons]

theorem eraseDups_of_nodup [DecidableEq α] {items : List α} (distinct : items.Nodup)
    : items.eraseDups = items := by
  induction items with
  | nil => rfl
  | cons first rest ih =>
      obtain ⟨new, others⟩ := List.nodup_cons.mp distinct
      have kept : rest.filter (fun item => !item == first) = rest := by
        refine List.filter_eq_self.mpr fun item member => ?_
        have other : item ≠ first := fun same => new (same ▸ member)
        simpa using other
      rw [List.eraseDups_cons, kept, ih others]

end Text

namespace PropertyPath

variable {text : String} {path : PropertyPath} {paths : List PropertyPath} {item : List Char}

-----------------------------------------------------------------------------------------
-- Spellings
-----------------------------------------------------------------------------------------

/-- The spellings of a path: its text with white space around. -/
def IsSpelledBy (path : PropertyPath) (item : List Char) : Prop :=
  ∃ before after, IsBlanks before ∧ IsBlanks after ∧ item = before ++ (path.text.toList ++ after)

/-- A path that can stand in a list: no comma is in it, and it is not the star. -/
def IsListable (path : PropertyPath) : Prop :=
  ',' ∉ path.text.toList ∧ path.text ≠ "*"

/-- The texts that list some paths: spellings of them joined with commas. -/
def AreListedBy (paths : List PropertyPath) (text : String) : Prop :=
  paths ≠ [] ∧ Text.Joins ',' IsSpelledBy paths text.toList

/-- The texts that ask for whole records: white space, or a star with white space around. -/
def StandsForWhole (text : String) : Prop :=
  Text.trimmed text = "" ∨ Text.trimmed text = "*"

instance (path : PropertyPath) : Decidable path.IsListable :=
  inferInstanceAs (Decidable (_ ∧ _))

instance (text : String) : Decidable (StandsForWhole text) :=
  inferInstanceAs (Decidable (_ ∨ _))

/-- The texts of paths with commas between them. -/
def joined (paths : List PropertyPath) : String :=
  ",".intercalate (paths.map (·.text))

theorem isTrimmed_text (path : PropertyPath) : Text.IsTrimmed path.text.toList := by
  have trimmed : path.text.toList = Text.trim path.text.toList := by
    conv_lhs => rw [← path.isTrimmed, Text.trimmed, String.toList_ofList]
  rw [trimmed]
  exact Text.isTrimmed_trim _

theorem isSpelledBy_iff_trim_eq : path.IsSpelledBy item ↔ Text.trim item = path.text.toList :=
  (Text.trim_eq_iff path.isTrimmed_text item).symm

-----------------------------------------------------------------------------------------
-- Items
-----------------------------------------------------------------------------------------

/-- A path is read from what spells it, if it is not the star. -/
theorem parseItem_eq_ok_iff
    : parseItem text item = .ok path ↔ path.text ≠ "*" ∧ path.IsSpelledBy item := by
  have read : parse (String.ofList (Text.trim item)) = .ok path
      ↔ Text.trim item = path.text.toList := by
    rw [parse_eq_ok_iff_text_eq, Text.trimmed, String.toList_ofList, Text.trim_trim,
      ← String.toList_inj, String.toList_ofList, eq_comm]
  rw [isSpelledBy_iff_trim_eq]
  unfold parseItem
  by_cases empty : Text.trim item = []
  · have filled : path.text.toList ≠ [] := String.toList_eq_nil_iff.not.mpr path.text_ne_empty
    simp [empty, filled.symm]
  by_cases star : Text.trim item = ['*']
  · have same : ['*'] = path.text.toList ↔ path.text = "*" := by
      rw [← String.toList_inj, eq_comm]
      rfl
    simp [star, same]
  · have other : Text.trim item = path.text.toList → path.text ≠ "*" := by
      intro same starred
      exact star (same.trans (by rw [starred]; rfl))
    rw [and_iff_right_of_imp other, ← read]
    simp only [List.isEmpty_iff, empty, star, ↓reduceIte]
    cases parse (String.ofList (Text.trim item)) with
    | ok found => simp only [Except.ok.injEq]
    | error error => simp

/-- White space around an item makes no difference. -/
theorem parseItem_trim (text : String) (item : List Char)
    : parseItem text (Text.trim item) = parseItem text item := by
  unfold parseItem
  simp only [Text.trim_trim]

/-- The paths that can stand in a list are spelled by the items without a comma from which they are
read.
-/
theorem isListable_isSpelledBy_iff (item : List Char) (path : PropertyPath)
    : path.IsListable ∧ path.IsSpelledBy item
      ↔ ',' ∉ item ∧ parseItem text item = .ok path := by
  rw [parseItem_eq_ok_iff]
  constructor
  · rintro ⟨⟨separate, other⟩, before, after, leading, trailing, rfl⟩
    refine ⟨?_, other, before, after, leading, trailing, rfl⟩
    simp only [List.mem_append, not_or]
    exact ⟨leading.not_mem (by decide), separate, trailing.not_mem (by decide)⟩
  · rintro ⟨separate, other, before, after, leading, trailing, rfl⟩
    simp only [List.mem_append, not_or] at separate
    exact ⟨⟨separate.2.1, other⟩, before, after, leading, trailing, rfl⟩

-----------------------------------------------------------------------------------------
-- Lists
-----------------------------------------------------------------------------------------

/-- Items are read from a trimmed text as they are from the text itself. -/
theorem mapM_splitOn_trimmed (text : String)
    : ((Text.trimmed text).toList.splitOn ',').mapM (parseItem (Text.trimmed text))
      = (text.toList.splitOn ',').mapM (parseItem (Text.trimmed text)) := by
  have trims : parseItem (Text.trimmed text) = parseItem (Text.trimmed text) ∘ Text.trim :=
    funext fun item => (parseItem_trim _ item).symm
  rw [trims, ← List.mapM_map, ← List.mapM_map, Text.trimmed, String.toList_ofList,
    Text.map_trim_splitOn_trim (by decide)]

/-- Paths that can stand in a list are read from the texts that join their spellings. -/
theorem mapM_parseItem_eq_ok_iff {listed : List PropertyPath}
    : (text.toList.splitOn ',').mapM (parseItem (Text.trimmed text)) = .ok listed
      ↔ (∀ path ∈ listed, path.IsListable) ∧ AreListedBy listed text := by
  rw [Text.mapM_splitOn_eq_ok_iff isListable_isSpelledBy_iff, Text.joins_and_iff, AreListedBy,
    and_left_comm]

/-- A text that stands for whole records lists no paths. -/
theorem not_standsForWhole_of_areListedBy (listable : ∀ path ∈ paths, path.IsListable)
    (listed : AreListedBy paths text)
    : ¬ StandsForWhole text := by
  have read := mapM_parseItem_eq_ok_iff.mpr ⟨listable, listed⟩
  rw [← mapM_splitOn_trimmed] at read
  rintro (empty | star)
  · rw [empty] at read
    cases read
  · rw [star] at read
    cases read

/-- A text that does not stand for whole records lists the paths that are read from it; each is read
once, at its first place.
-/
theorem parseList_eq_ok_iff (named : ¬ StandsForWhole text)
    : parseList text = .ok paths
      ↔ ∃ listed, (∀ path ∈ listed, path.IsListable) ∧ AreListedBy listed text
        ∧ paths = listed.eraseDups := by
  unfold parseList
  dsimp only
  split
  · next whole => exact absurd whole named
  · rw [mapM_splitOn_trimmed]
    constructor
    · intro read
      obtain ⟨listed, items, rfl⟩ := exists_of_map_eq_ok read
      obtain ⟨listable, areListed⟩ := mapM_parseItem_eq_ok_iff.mp items
      exact ⟨listed, listable, areListed, Text.firstOccurrences_eq_eraseDups listed⟩
    · rintro ⟨listed, listable, areListed, rfl⟩
      rw [mapM_parseItem_eq_ok_iff.mpr ⟨listable, areListed⟩,
        ← Text.firstOccurrences_eq_eraseDups]
      rfl

/-- Paths joined with commas list themselves. -/
theorem areListedBy_joined (filled : paths ≠ []) : AreListedBy paths (joined paths) := by
  refine ⟨filled, paths.map (·.text.toList), ?_, ?_⟩
  · rw [List.forall₂_map_left_iff, List.forall₂_same]
    exact fun path _ => ⟨[], [], Text.isBlanks_nil, Text.isBlanks_nil, by simp⟩
  · rw [joined, String.toList_intercalate, List.map_map]
    rfl

/-- Some paths that can stand in a list are read from the texts that list them, each once and at its
first place. What is read from any text that does not stand for whole records are such paths, all
different, and they are read again from their texts joined with commas.
-/
theorem parseList_areListedBy (text : String) (paths : List PropertyPath)
    : ((∀ path ∈ paths, path.IsListable) → AreListedBy paths text
        → parseList text = .ok paths.eraseDups ∧ (paths.Nodup → parseList text = .ok paths))
      ∧ (¬ StandsForWhole text → parseList text = .ok paths
        → paths ≠ [] ∧ paths.Nodup ∧ (∀ path ∈ paths, path.IsListable)
          ∧ parseList (joined paths) = .ok paths) := by
  have reads {listed : List PropertyPath} {text : String}
      (listable : ∀ path ∈ listed, path.IsListable) (areListed : AreListedBy listed text)
      : parseList text = .ok listed.eraseDups :=
    (parseList_eq_ok_iff (not_standsForWhole_of_areListedBy listable areListed)).mpr
      ⟨listed, listable, areListed, rfl⟩
  constructor
  · intro listable areListed
    have read := reads listable areListed
    exact ⟨read, fun distinct => by rw [read, Text.eraseDups_of_nodup distinct]⟩
  · intro named read
    obtain ⟨listed, listable, areListed, rfl⟩ := (parseList_eq_ok_iff named).mp read
    have distinct : listed.eraseDups.Nodup := by
      rw [← Text.firstOccurrences_eq_eraseDups]
      exact Text.nodup_firstOccurrences listed
    have filled : listed.eraseDups ≠ [] := by
      obtain ⟨path, member⟩ := List.exists_mem_of_ne_nil listed areListed.1
      exact List.ne_nil_of_mem (List.mem_eraseDups.mpr member)
    have kept : ∀ path ∈ listed.eraseDups, path.IsListable := fun path member =>
      listable path (List.mem_eraseDups.mp member)
    refine ⟨filled, distinct, kept, ?_⟩
    rw [reads kept (areListedBy_joined filled), Text.eraseDups_of_nodup distinct]

/-- A list with white space around two items and with a repeated path. -/
theorem parseList_areListedBy_repeated
    : let a : PropertyPath := ⟨"a b", rfl, by decide⟩
      let b : PropertyPath := ⟨"c/*", rfl, by decide⟩
      let text := " c/* ,\ta b,c/*\n"
      (∀ path ∈ [b, a, b], path.IsListable) ∧ AreListedBy [b, a, b] text
      ∧ parseList text = .ok [b, a] ∧ ¬ StandsForWhole text
      ∧ joined [b, a] = "c/*,a b" ∧ parseList "c/*,a b" = .ok [b, a] := by
  intro a b text
  have listable : ∀ path ∈ [b, a, b], path.IsListable := by decide
  have listed : AreListedBy [b, a, b] text := by
    refine ⟨List.cons_ne_nil _ _, [" c/* ".toList, "\ta b".toList, "c/*\n".toList],
      .cons ?_ (.cons ?_ (.cons ?_ .nil)), by decide⟩
    · exact ⟨[' '], [' '], by decide, by decide, by decide⟩
    · exact ⟨['\t'], [], by decide, by decide, by decide⟩
    · exact ⟨[], ['\n'], by decide, by decide, by decide⟩
  have named : ¬ StandsForWhole text := by decide
  have read : parseList text = .ok [b, a] := ((parseList_areListedBy text _).1 listable listed).1
  have again := ((parseList_areListedBy text [b, a]).2 named read).2.2.2
  exact ⟨listable, listed, read, named, rfl, again⟩

end PropertyPath

end RecordQuery
