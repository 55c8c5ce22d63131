import RecordQuery.Text.Alphanumeric
import RecordQuery.Text.Blank
import RecordQuery.Text.Numeral

/-! White space and words share no character, and every ASCII digit may stand in a word. So the
edges of a word are where white space, a mark or the end of the text begins.
-/

namespace RecordQuery.Text

/-- The code points of white space. -/
def blankCodes : List Nat :=
  [
    0x09, 0x0A, 0x0B, 0x0C, 0x0D, 0x20, 0x85, 0xA0, 0x1680, 0x2000, 0x2001, 0x2002, 0x2003, 0x2004,
    0x2005, 0x2006, 0x2007, 0x2008, 0x2009, 0x200A, 0x2028, 0x2029, 0x202F, 0x205F, 0x3000
  ]

/-- Every white space is listed, one interval of code points after the other. -/
theorem mem_blankCodes_of_isBlank {c : Char} (h : isBlank c = true) : c.toNat ∈ blankCodes := by
  unfold isBlank at h
  generalize c.toNat = n at h ⊢
  -- both sides are now statements about one number
  simp only [Bool.or_eq_true, Bool.and_eq_true, decide_eq_true_eq, beq_iff_eq] at h
  simp only [blankCodes, List.mem_cons, List.not_mem_nil, or_false]
  omega

/-- No white space is a letter or a digit: its code points lie between the ranges. -/
theorem isAlphanumeric_of_isBlank {c : Char} (h : isBlank c = true)
    : isAlphanumeric c = false := by
  have outside : ∀ n ∈ blankCodes, inRanges n alphanumericRanges = false := by decide +kernel
  exact outside c.toNat (mem_blankCodes_of_isBlank h)

theorem isBlank_of_isWordChar {c : Char} (h : isWordChar c = true) : isBlank c = false := by
  cases blank : isBlank c with
  | false => rfl
  | true =>
      simp only [isWordChar, isAlphanumeric_of_isBlank blank, Bool.false_or, beq_iff_eq] at h
      subst h
      exact absurd blank (by decide)

theorem isWordChar_of_isDigit {c : Char} (h : isDigit c = true) : isWordChar c = true := by
  have code : 0x30 ≤ c.toNat ∧ c.toNat ≤ 0x39 := by
    simpa [isDigit, Char.le_def, UInt32.le_iff_toNat_le] using h
  have alphanumeric : isAlphanumeric c = true := by
    unfold isAlphanumeric alphanumericRanges inRanges
    rw [if_neg (by omega), decide_eq_true code.2, Bool.true_or]
  rw [isWordChar, alphanumeric, Bool.true_or]

theorem isBlank_of_isDigit {c : Char} (h : isDigit c = true) : isBlank c = false :=
  isBlank_of_isWordChar (isWordChar_of_isDigit h)

end RecordQuery.Text
