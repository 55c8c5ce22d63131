import RecordQuery.Text.Blank

/-! Runs: the longest start of a text whose characters have some property. A run ends where the
first character without the property stands, or with the text.
-/

namespace RecordQuery.Text

/-- No character with the property comes next, so a run of such characters may end here. -/
def Stops (p : Char → Bool) (rest : List Char) : Prop :=
  ∀ c ∈ rest.head?, p c = false

theorem stops_nil (p : Char → Bool) : Stops p [] :=
  fun _ h => absurd h (by simp)

theorem stops_cons {p : Char → Bool} {c : Char} (h : p c = false) (rest : List Char)
    : Stops p (c :: rest) := by
  intro d hd
  cases hd
  exact h

theorem stops_dropWhile (p : Char → Bool) (text : List Char) : Stops p (text.dropWhile p) :=
  head?_dropWhile_eq_false p text

/-- A run is found again in front of a text that stops it. -/
theorem takeWhile_append_of_stops {p : Char → Bool} {run rest : List Char}
    (chars : ∀ c ∈ run, p c) (stops : Stops p rest)
    : (run ++ rest).takeWhile p = run := by
  rw [List.takeWhile_append_of_pos chars]
  cases rest with
  | nil => simp
  | cons c rest => simp [stops c rfl]

theorem dropWhile_append_of_stops {p : Char → Bool} {run rest : List Char}
    (chars : ∀ c ∈ run, p c) (stops : Stops p rest)
    : (run ++ rest).dropWhile p = rest := by
  rw [List.dropWhile_append_of_pos chars]
  exact dropWhile_of_head? stops

/-- Leaving out as many characters as a run has leaves what comes behind it. -/
theorem drop_length_takeWhile (p : Char → Bool) (text : List Char)
    : text.drop (text.takeWhile p).length = text.dropWhile p := by
  induction text with
  | nil => rfl
  | cons c rest ih =>
      by_cases h : p c = true
      · simp [h, ih]
      · simp [h]

theorem of_mem_takeWhile {p : Char → Bool} {text : List Char} {c : Char}
    (h : c ∈ text.takeWhile p)
    : p c = true := by
  induction text with
  | nil => simp at h
  | cons d rest ih =>
      rw [List.takeWhile_cons] at h
      split at h
      · rcases List.mem_cons.mp h with rfl | h
        · assumption
        · exact ih h
      · simp at h

end RecordQuery.Text
