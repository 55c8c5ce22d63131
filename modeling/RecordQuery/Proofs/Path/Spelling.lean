import RecordQuery.Path.Basic

/-! Paths and their texts. A path is read back from its own text, and its names are the parts of the
text between slashes.
-/

namespace RecordQuery

namespace Text

/-- The parts between separators hold the characters of a text without the separators. -/
theorem mem_of_mem_splitOn {text piece : List Char} {separator c : Char}
    (found : piece ∈ text.splitOn separator) (member : c ∈ piece)
    : c ∈ text ∧ c ≠ separator := by
  induction text generalizing piece with
  | nil =>
      rw [List.splitOn_nil, List.mem_singleton] at found
      simp [found] at member
  | cons d rest ih =>
      rw [List.splitOn_cons_eq_if_modifyHead] at found
      split at found
      · rcases List.mem_cons.mp found with rfl | found
        · simp at member
        · exact (ih found member).imp_left (List.mem_cons_of_mem d)
      · next other =>
          obtain ⟨first, others, pieces⟩ :=
            List.exists_cons_of_ne_nil (List.splitOn_ne_nil separator rest)
          rw [pieces, List.modifyHead_cons, List.mem_cons] at found
          rcases found with rfl | found
          · rcases List.mem_cons.mp member with rfl | member
            · exact ⟨by simp, by simpa using other⟩
            · exact (ih (by simp [pieces]) member).imp_left (List.mem_cons_of_mem d)
          · exact (ih (by simp [pieces, found]) member).imp_left (List.mem_cons_of_mem d)

/-- A text starts with its first part, which is all of it or ends at a separator. -/
theorem splitOn_eq_cons (text : List Char) (separator : Char)
    : ∃ piece others more, text.splitOn separator = piece :: others ∧ text = piece ++ more
        ∧ (more = [] ∨ more.head? = some separator) := by
  induction text with
  | nil => exact ⟨[], [], [], List.splitOn_nil separator, rfl, .inl rfl⟩
  | cons c rest ih =>
      obtain ⟨piece, others, more, pieces, split, left⟩ := ih
      rw [List.splitOn_cons_eq_if_modifyHead]
      by_cases same : c = separator
      · exact ⟨[], rest.splitOn separator, c :: rest, by simp [same], rfl, .inr (by simp [same])⟩
      · exact ⟨c :: piece, others, more, by simp [same, pieces], by simp [split], left⟩

/-- A text without white space is trimmed. -/
theorem isTrimmed_of_forall {text : List Char} (h : ∀ c ∈ text, isBlank c = false)
    : IsTrimmed text :=
  ⟨fun c first => h c (List.mem_of_mem_head? first),
    fun c last => h c (List.mem_of_mem_getLast? last)⟩

end Text

namespace PropertyPath

theorem names_ne_nil (path : PropertyPath) : path.names ≠ [] := by
  rw [names, split, ne_eq, List.map_eq_nil_iff]
  exact List.splitOn_ne_nil '/' path.text.toList

theorem ext {p q : PropertyPath} (h : p.text = q.text) : p = q := by
  cases p
  cases q
  cases h
  rfl

/-- The names of a path are not empty, so its text is not. -/
theorem text_ne_empty (path : PropertyPath) : path.text ≠ "" := by
  intro empty
  refine path.isNamed "" ?_ rfl
  rw [empty]
  decide

/-- A path is read back from its text. -/
theorem parse_text (path : PropertyPath) : parse path.text = .ok path := by
  have named : ∀ name ∈ split path.text, name ≠ "" := path.isNamed
  unfold parse
  simp only [path.isTrimmed, path.text_ne_empty, ↓reduceIte]
  rw [dif_pos named]

/-- The path that is read has the text without the white space around it. -/
theorem text_of_parse {text : String} {path : PropertyPath} (h : parse text = .ok path)
    : path.text = Text.trimmed text := by
  unfold parse at h
  dsimp only at h
  split at h
  · simp at h
  · split at h
    · cases h
      rfl
    · simp at h

/-- A text is read as the path whose text it has between white space. -/
theorem parse_eq_ok_iff_text_eq {text : String} {path : PropertyPath}
    : parse text = .ok path ↔ path.text = Text.trimmed text := by
  refine ⟨text_of_parse, fun same => ?_⟩
  have unchanged : parse text = parse (Text.trimmed text) := by
    unfold parse
    simp only [Text.trimmed_trimmed]
  rw [unchanged, ← same, parse_text]

end PropertyPath

end RecordQuery
