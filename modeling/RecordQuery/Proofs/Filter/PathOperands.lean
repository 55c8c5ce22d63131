import RecordQuery.Proofs.Filter.Scanning
import RecordQuery.Proofs.Path.Spelling

/-! Paths as operands. The reader takes the longest row of words and slashes; that is a path where
it ends with a word, and every path of words is taken whole in front of a text that starts with
neither a slash nor an identifier character.
-/

namespace RecordQuery.Scan

open Grammar

-----------------------------------------------------------------------------------------
-- The row that is taken
-----------------------------------------------------------------------------------------

/-- What is taken is the start of the text, made of words and slashes, and ends a word. No slash
goes on behind it if it is complete.
-/
theorem pathChars_spec (afterSlash : Bool) (text : List Char)
    : ∃ rest, text = (pathChars afterSlash text).1 ++ rest ∧ EndsWord rest
        ∧ (∀ c ∈ (pathChars afterSlash text).1, Text.isWordChar c = true ∨ c = '/')
        ∧ ((pathChars afterSlash text).2 = true → rest.head? ≠ some '/') := by
  fun_induction pathChars afterSlash text with
  | case1 => exact ⟨[], rfl, Text.stops_nil _, by simp⟩
  | case2 afterSlash c rest word path complete found ih =>
      rw [found] at ih
      obtain ⟨left, split, ends, chars, last⟩ := ih
      exact ⟨left, by simp [split], ends, by simpa [word] using chars, last⟩
  | case3 afterSlash c rest noWord slash path complete found ih =>
      rw [found] at ih
      obtain ⟨left, split, ends, chars, last⟩ := ih
      exact ⟨left, by simp [split], ends, by simpa [slash.1] using chars, last⟩
  | case4 afterSlash c rest noWord noSlash =>
      refine ⟨c :: rest, rfl, Text.stops_cons (by simpa using noWord) rest, by simp, ?_⟩
      intro complete same
      simp only [List.head?_cons, Option.some.injEq] at same
      exact noSlash ⟨same, complete⟩

/-- The names of a text that still has to be taken are words: the first one may go on with what was
taken before, unless a slash came last.
-/
structure TakesNames (afterSlash : Bool) (chars : List Char) : Prop where
  words : ∀ name ∈ chars.splitOn '/', ∀ c ∈ name, Text.isWordChar c = true
  later : ∀ name ∈ (chars.splitOn '/').tail, name ≠ []
  first : afterSlash = true → (chars.splitOn '/').head? ≠ some []

/-- Behind an identifier character the names are still words. -/
theorem TakesNames.word {afterSlash : Bool} {c : Char} {chars : List Char} (other : c ≠ '/')
    (h : TakesNames afterSlash (c :: chars))
    : Text.isWordChar c = true ∧ TakesNames false chars := by
  obtain ⟨words, later, _⟩ := h
  obtain ⟨name, names, split⟩ := List.exists_cons_of_ne_nil (List.splitOn_ne_nil '/' chars)
  simp only [List.splitOn_cons_eq_if_modifyHead, beq_iff_eq, other, ↓reduceIte, split,
    List.modifyHead_cons, List.tail_cons, List.mem_cons, forall_eq_or_imp] at words later
  refine ⟨words.1.1, ?_, ?_, by simp⟩
  · simp only [split, List.mem_cons, forall_eq_or_imp]
    exact ⟨words.1.2, words.2⟩
  · simpa only [split, List.tail_cons] using later

theorem TakesNames.slash {afterSlash : Bool} {chars : List Char}
    (h : TakesNames afterSlash ('/' :: chars))
    : afterSlash = false ∧ TakesNames true chars := by
  obtain ⟨words, later, first⟩ := h
  simp only [List.splitOn_cons_eq_if_modifyHead, beq_self_eq_true, ↓reduceIte, List.tail_cons,
    List.head?_cons, ne_eq, not_true_eq_false, imp_false, Bool.not_eq_true, List.mem_cons,
    forall_eq_or_imp] at words later first
  refine ⟨first, words.2, fun name found => later name (List.mem_of_mem_tail found), fun _ => ?_⟩
  intro empty
  exact later [] (List.mem_of_mem_head? empty) rfl

/-- A row of words and slashes is taken whole, by induction along it. -/
theorem pathChars_append {afterSlash : Bool} {chars rest : List Char}
    (h : TakesNames afterSlash chars) (ends : EndsWord rest) (slash : rest.head? ≠ some '/')
    : pathChars afterSlash (chars ++ rest) = (chars, true) := by
  induction chars generalizing afterSlash with
  | nil =>
      have start : afterSlash = false := by
        cases afterSlash with
        | false => rfl
        | true => exact absurd (h.first rfl) (by simp)
      cases rest with
      | nil => simp [pathChars, start]
      | cons c rest =>
          have other : c ≠ '/' := fun same => slash (by rw [same]; rfl)
          simp [pathChars, start, ends c rfl, other]
  | cons c chars ih =>
      by_cases same : c = '/'
      · subst same
        obtain ⟨start, more⟩ := h.slash
        have noWord : Text.isWordChar '/' = false := by decide
        simp [pathChars, start, noWord, ih more]
      · obtain ⟨word, more⟩ := h.word same
        simp [pathChars, word, ih more]

-----------------------------------------------------------------------------------------
-- The path that it is read as
-----------------------------------------------------------------------------------------

/-- Where a path is read, one is written. -/
theorem path_of_run {s s' : Scanner} {operand : Operand} (h : path.run s = .ok (operand, s'))
    : s'.joins = s.joins ∧ ∃ path : PropertyPath, operand = .property path
        ∧ s.rest = path.text.toList ++ s'.rest ∧ EndsWord s'.rest ∧ s'.rest.head? ≠ some '/'
        ∧ ∀ name ∈ path.names, ∀ c ∈ name.toList, Text.isWordChar c = true := by
  obtain ⟨rest, split, ends, chars, last⟩ := pathChars_spec false s.rest
  rw [path, run_bind_of_ok (run_get s)] at h
  generalize pathChars false s.rest = taken at h split chars last
  obtain ⟨taken, complete⟩ := taken
  cases complete with
  | false => simp at h
  | true =>
      cases parsed : PropertyPath.parse (String.ofList taken) with
      | error error => simp [parsed] at h
      | ok found =>
          simp only [↓reduceIte, parsed, run_bind_of_ok (run_advance ..), run_pure,
            Except.ok.injEq, Prod.mk.injEq] at h
          obtain ⟨rfl, rfl⟩ := h
          -- without white space in it, the path keeps the whole text that was taken
          have solid : ∀ c ∈ taken, Text.isBlank c = false := by
            intro c member
            rcases chars c member with word | rfl
            · exact Text.isBlank_of_isWordChar word
            · rfl
          have text : found.text.toList = taken := by
            rw [PropertyPath.text_of_parse parsed, Text.trimmed, String.toList_ofList,
              String.toList_ofList, (Text.isTrimmed_of_forall solid).trim_eq]
          have left : s.rest.drop taken.length = rest := by rw [split, List.drop_left]
          refine ⟨rfl, found, rfl, by rw [text, Scanner.rest_advance, left, split], ?_, ?_, ?_⟩
          · rw [Scanner.rest_advance, left]
            exact ends
          · rw [Scanner.rest_advance, left]
            exact last rfl
          · intro name member c inside
            obtain ⟨piece, piece_mem, rfl⟩ := List.mem_map.mp member
            rw [String.toList_ofList] at inside
            rw [text] at piece_mem
            obtain ⟨inside, other⟩ := Text.mem_of_mem_splitOn piece_mem inside
            exact (chars c inside).resolve_right other

theorem takesNames_text {path : PropertyPath}
    (words : ∀ name ∈ path.names, ∀ c ∈ name.toList, Text.isWordChar c = true)
    : TakesNames false path.text.toList := by
  refine ⟨?_, ?_, by simp⟩
  · intro piece member c inside
    exact words (String.ofList piece) (List.mem_map_of_mem member) c (by simpa using inside)
  · intro piece member empty
    refine path.isNamed (String.ofList piece)
      (List.mem_map_of_mem (List.mem_of_mem_tail member)) ?_
    rw [empty]

/-- A path of words is read where it is written, unless a slash or a word goes on behind it. -/
theorem run_path {s : Scanner} {found : PropertyPath} {rest : List Char}
    (words : ∀ name ∈ found.names, ∀ c ∈ name.toList, Text.isWordChar c = true)
    (spelling : s.rest = found.text.toList ++ rest) (ends : EndsWord rest)
    (slash : rest.head? ≠ some '/')
    : ∃ s', path.run s = .ok (.property found, s') ∧ s'.rest = rest ∧ s'.joins = s.joins := by
  have taken := pathChars_append (takesNames_text words) ends slash
  rw [← spelling] at taken
  refine ⟨s.advance found.text.toList.length, ?_, by rw [Scanner.rest_advance, spelling,
    List.drop_left], rfl⟩
  rw [path, run_bind_of_ok (run_get s)]
  simp only [taken, ↓reduceIte, String.ofList_toList, PropertyPath.parse_text]
  rw [run_bind_of_ok (run_advance ..), run_pure]

/-- A path of words starts with its first name, which is all of it or goes on at a slash. -/
theorem takeWhile_text {found : PropertyPath} {rest : List Char}
    (words : ∀ name ∈ found.names, ∀ c ∈ name.toList, Text.isWordChar c = true)
    (ends : EndsWord rest)
    : ∃ name more, found.names.head? = some name ∧ found.text.toList = name.toList ++ more
        ∧ (more = [] ∨ more.head? = some '/')
        ∧ (found.text.toList ++ rest).takeWhile Text.isWordChar = name.toList := by
  obtain ⟨piece, others, more, pieces, text, left⟩ := Text.splitOn_eq_cons found.text.toList '/'
  have names : found.names = String.ofList piece :: others.map String.ofList := by
    rw [PropertyPath.names, PropertyPath.split, pieces, List.map_cons]
  have chars : ∀ c ∈ piece, Text.isWordChar c = true := by
    intro c member
    exact words (String.ofList piece) (by simp [names]) c (by simpa using member)
  refine ⟨String.ofList piece, more, by simp [names], by simpa using text, left, ?_⟩
  rw [text, List.append_assoc, String.toList_ofList]
  refine Text.takeWhile_append_of_stops chars ?_
  rcases left with rfl | slash
  · exact ends
  · obtain ⟨tail, rfl⟩ := List.head?_eq_some_iff.mp slash
    exact Text.stops_cons (by decide) (tail ++ rest)

end RecordQuery.Scan
