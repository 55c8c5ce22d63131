import Mathlib.Algebra.Group.Nat.Defs
import RecordQuery.Text.Numeral

/-! Rows of decimal digits: the digits of a number stand for it, zeros in front change nothing, and
zeros behind multiply by powers of ten. A number lies between the powers of ten that its digits
count.
-/

namespace RecordQuery.Text

theorem digitsValue_eq (digits : List Char)
    : digitsValue digits = Nat.ofDigitChars 10 digits 0 := rfl

@[simp]
theorem digitsValue_digitsOf (n : Nat) : digitsValue (digitsOf n) = n :=
  Nat.ofDigitChars_ten_toDigits

/-- Zeros behind a row multiply by ten each. -/
theorem digitsValue_append_zeros (digits : List Char) (count : Nat)
    : digitsValue (digits ++ List.replicate count '0') = digitsValue digits * 10 ^ count := by
  rw [digitsValue_eq, Nat.ofDigitChars_append, Nat.ofDigitChars_replicate_zero, Nat.mul_comm,
    digitsValue_eq]

/-- Zeros in front of a row do not count. -/
theorem digitsValue_zeros_append (count : Nat) (digits : List Char)
    : digitsValue (List.replicate count '0' ++ digits) = digitsValue digits := by
  rw [digitsValue_eq, Nat.ofDigitChars_append, Nat.ofDigitChars_replicate_zero, Nat.mul_zero,
    digitsValue_eq]

/-- What a digit is here is what it is elsewhere. -/
theorem isDigit_eq (c : Char) : isDigit c = c.isDigit := by
  simp [isDigit, Char.isDigit, Char.le_def]

theorem toNat_of_isDigit {c : Char} (h : isDigit c) : 0x30 ≤ c.toNat ∧ c.toNat ≤ 0x39 := by
  rw [isDigit, Bool.and_eq_true, decide_eq_true_eq, decide_eq_true_eq, Char.le_def, Char.le_def,
    UInt32.le_iff_toNat_le, UInt32.le_iff_toNat_le] at h
  exact h

/-- Digits behind a number stay below the next number with as many zeros behind it, by induction on
the digits.
-/
theorem digitsValueFrom_lt {digits : List Char} (areDigits : ∀ c ∈ digits, isDigit c = true)
    (start : Nat)
    : digitsValueFrom start digits < (start + 1) * 10 ^ digits.length := by
  induction digits generalizing start with
  | nil => simp [digitsValueFrom]
  | cons c rest ih =>
      have code := toNat_of_isDigit (areDigits c List.mem_cons_self)
      have value : digitValue c ≤ 9 := by
        rw [digitValue, show '0'.toNat = 0x30 from rfl]
        omega
      have areRest : ∀ d ∈ rest, isDigit d = true :=
        fun d member => areDigits d (List.mem_cons_of_mem c member)
      calc digitsValueFrom start (c :: rest)
        _ = digitsValueFrom (10 * start + digitValue c) rest := rfl
        _ < (10 * start + digitValue c + 1) * 10 ^ rest.length := ih areRest _
        _ ≤ (start + 1) * 10 * 10 ^ rest.length := Nat.mul_le_mul_right _ (by omega)
        _ = (start + 1) * 10 ^ (c :: rest).length := by
            rw [List.length_cons, Nat.pow_succ', Nat.mul_assoc]

/-- A row of digits stands for a number below the power of ten with as many zeros. -/
theorem digitsValue_lt {digits : List Char} (areDigits : ∀ c ∈ digits, isDigit c = true)
    : digitsValue digits < 10 ^ digits.length := by
  have below := digitsValueFrom_lt areDigits 0
  rwa [Nat.zero_add, Nat.one_mul] at below

theorem isDigit_of_mem_digitsOf {n : Nat} {c : Char} (h : c ∈ digitsOf n) : isDigit c = true := by
  rw [isDigit_eq]
  exact Nat.isDigit_of_mem_toDigits (by decide) (by decide) h

theorem digitsOf_ne_nil (n : Nat) : digitsOf n ≠ [] :=
  Nat.toDigits_ne_nil

theorem length_digitsOf_pos (n : Nat) : 0 < (digitsOf n).length :=
  List.length_pos_iff.mpr (digitsOf_ne_nil n)

/-- A number is written as a digit and others behind it. -/
theorem exists_digitsOf_eq_cons (n : Nat)
    : ∃ c digits, digitsOf n = c :: digits ∧ isDigit c = true
      ∧ ∀ d ∈ digits, isDigit d = true := by
  obtain ⟨c, digits, row⟩ := List.exists_cons_of_ne_nil (digitsOf_ne_nil n)
  have areDigits : ∀ d ∈ c :: digits, isDigit d = true :=
    fun d member => isDigit_of_mem_digitsOf (row ▸ member)
  rw [List.forall_mem_cons] at areDigits
  exact ⟨c, digits, row, areDigits⟩

/-- The first digit of a number is no zero, unless it is the only one. -/
theorem head?_digitsOf_ne {n : Nat} (h : n ≠ 0) : (digitsOf n).head? ≠ some '0' := by
  induction n using Nat.strongRecOn with
  | ind n ih =>
      unfold digitsOf at ih ⊢
      rcases Nat.lt_or_ge n 10 with small | large
      · have shown : ∀ digit < 10, digit ≠ 0 → Nat.digitChar digit ≠ '0' := by decide
        rw [Nat.toDigits_of_lt_base small, List.head?_cons, ne_eq, Option.some_inj]
        exact shown n small h
      · have leading := ih (n / 10) (by omega) (by omega)
        rw [Nat.toDigits_of_base_le (by decide) large, List.head?_append]
        cases first : (Nat.toDigits 10 (n / 10)).head? with
        | none => exact absurd (List.head?_eq_none_iff.mp first) Nat.toDigits_ne_nil
        | some c => simpa [first] using leading

/-- A number is below the power of ten with as many zeros as it has digits. -/
theorem lt_pow_length_digitsOf (n : Nat) : n < 10 ^ (digitsOf n).length :=
  (Nat.length_toDigits_le_iff (by decide) (length_digitsOf_pos n)).mp (Nat.le_refl _)

/-- A number other than zero is not below the power of ten with as many digits. -/
theorem pow_length_digitsOf_le {n : Nat} (h : n ≠ 0) : 10 ^ ((digitsOf n).length - 1) ≤ n := by
  have pos := length_digitsOf_pos n
  by_cases single : (digitsOf n).length = 1
  · rw [single]
    exact Nat.one_le_iff_ne_zero.mpr h
  · refine Nat.le_of_not_lt (fun less => ?_)
    have shorter := (Nat.length_toDigits_le_iff (by decide) (by omega)).mpr less
    rw [← digitsOf] at shorter
    omega

end RecordQuery.Text
