/-! White space: the 25 characters that separate words and are trimmed from both ends of a text.
They are the characters with the Unicode property White_Space.
-/

namespace RecordQuery.Text

/-- A character with the Unicode property White_Space. -/
def isBlank (c : Char) : Bool :=
  let n := c.toNat
  (0x09 ≤ n && n ≤ 0x0D) || n == 0x20 || n == 0x85 || n == 0xA0 || n == 0x1680
    || (0x2000 ≤ n && n ≤ 0x200A) || n == 0x2028 || n == 0x2029 || n == 0x202F || n == 0x205F
    || n == 0x3000

/-- The text without the white space at its end. -/
def trimEnd (text : List Char) : List Char :=
  (text.reverse.dropWhile isBlank).reverse

/-- The text without the white space at either end. -/
def trim (text : List Char) : List Char :=
  trimEnd (text.dropWhile isBlank)

/-- The string without the white space at either end. -/
def trimmed (s : String) : String :=
  String.ofList (trim s.toList)

/-- Nothing but white space. -/
def isAllBlank (s : String) : Bool :=
  s.toList.all isBlank

/-- The maximal runs of characters that are not white space, in order. -/
def words (text : List Char) : List (List Char) :=
  (text.splitOnP isBlank).filter (fun word => !word.isEmpty)

/-- A text is trimmed when neither its first nor its last character is white space. -/
def IsTrimmed (text : List Char) : Prop :=
  (∀ c ∈ text.head?, isBlank c = false) ∧ (∀ c ∈ text.getLast?, isBlank c = false)

theorem dropWhile_of_head? {p : Char → Bool} {text : List Char}
    (h : ∀ c ∈ text.head?, p c = false)
    : text.dropWhile p = text := by
  cases text with
  | nil => rfl
  | cons c rest => simp [h c rfl]

theorem head?_dropWhile_eq_false (p : Char → Bool) (text : List Char)
    : ∀ c ∈ (text.dropWhile p).head?, p c = false := by
  intro c hc
  have h := List.head?_dropWhile_not p text
  rw [Option.mem_def.mp hc] at h
  exact h

/-- Trimming leaves a trimmed text as it is. -/
theorem IsTrimmed.trim_eq {text : List Char} (h : IsTrimmed text) : trim text = text := by
  have hlast : ∀ c ∈ text.reverse.head?, isBlank c = false := by
    simpa only [List.head?_reverse] using h.2
  simp [trim, trimEnd, dropWhile_of_head? h.1, dropWhile_of_head? hlast]

/-- What is left after trimming is trimmed. -/
theorem isTrimmed_trim (text : List Char) : IsTrimmed (trim text) := by
  constructor
  · intro c hc
    have hpre : trim text <+: text.dropWhile isBlank := by
      have hsuffix : (text.dropWhile isBlank).reverse.dropWhile isBlank
          <:+ (text.dropWhile isBlank).reverse := List.dropWhile_suffix _
      simpa [trim, trimEnd] using List.reverse_prefix.mpr hsuffix
    obtain ⟨tail, htail⟩ := hpre
    refine head?_dropWhile_eq_false isBlank text c ?_
    rw [← htail]
    cases htrim : trim text with
    | nil => simp [htrim] at hc
    | cons d rest => simpa [htrim] using hc
  · intro c hc
    refine head?_dropWhile_eq_false isBlank (text.dropWhile isBlank).reverse c ?_
    simpa [trim, trimEnd, List.getLast?_reverse] using hc

theorem trim_trim (text : List Char) : trim (trim text) = trim text :=
  (isTrimmed_trim text).trim_eq

end RecordQuery.Text
