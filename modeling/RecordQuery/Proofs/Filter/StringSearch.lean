import RecordQuery.Filter.Evaluation
import RecordQuery.Proofs.Text.Search

/-! Strings inside other strings, in filters. The place that `indexof` gives is counted in UTF-16
units, the tests of strings agree with it, and lengths add up where strings are joined.
-/

namespace RecordQuery

/-- An integer that fits 64 bits is its own value. -/
theorem Json.ofInt_of_inRange {n : Int} (inRange : Number.InRange n)
    : Json.ofInt n = .number (.int n inRange) := by
  have kept : max (-(twoPow 63 : Int)) (min n (twoPow 64 - 1)) = n := by
    unfold Number.InRange at inRange
    omega
  simp only [ofInt, Number.nearestInt, kept]

/-- The value of a search is the place of the needle. -/
theorem Json.exists_indexOf_eq (text needle : String)
    : ∃ place, Text.IsPlace needle.toList text.toList place
        ∧ Json.indexOf text needle = .ofInt place := by
  unfold Json.indexOf
  cases found : Text.indexOf? needle.toList text.toList with
  | some place => exact ⟨_, .found (Text.isFirstAt_of_indexOf? found).units, rfl⟩
  | none =>
      refine ⟨-1, .nowhere fun place occurs => ?_, rfl⟩
      obtain ⟨inner, inside⟩ := Text.exists_occursAt_of_units occurs
      exact Text.not_occursAt_of_indexOf? found inner inside

section Calls

variable {record : Json} {a b : Operand} {s t : String}

theorem BinaryFunction.eval_eq (function : BinaryFunction)
    (left : a.eval record = .ok (some (.string s)))
    (right : b.eval record = .ok (some (.string t)))
    : (Operand.binary function a b).eval record
      = .ok (some (match function with
        | .indexOf => .indexOf s t
        | .concat | .substring => .string (s ++ t))) := by
  rw [Operand.eval, left, right]
  cases function <;> rfl

theorem Operand.eval_length (value : a.eval record = .ok (some (.string s)))
    : (Operand.unary .length a).eval record = .ok (some (.ofInt (Text.unitCount s.toList))) := by
  rw [eval, value]
  rfl

theorem StringTest.accepts_eq (test : StringTest)
    (left : a.eval record = .ok (some (.string s)))
    (right : b.eval record = .ok (some (.string t)))
    : (Filter.stringTest test a b).accepts record = .ok (test.holds s t) := by
  rw [Filter.accepts, left, right]
  rfl

/-- The tests of strings agree with the place of the second string in the first one: it is inside
if it has a place, and at the start if this is zero; it is at the end if some string joined with it
is the first one.
-/
structure Operand.TestsAgree (record : Json) (a b : Operand) (place : Int) : Prop where
  inside : (Filter.stringTest .substringOf b a).accepts record = .ok (decide (0 ≤ place))
  atStart : (Filter.stringTest .startsWith a b).accepts record = .ok (decide (place = 0))
  atEnd : ∃ ends, (Filter.stringTest .endsWith a b).accepts record = .ok ends
    ∧ (ends = true ↔ ∃ x : String,
      (Operand.binary .concat (.literal (.string x)) b).eval record = a.eval record)

/-- The lengths of two strings and the length of both joined, which is their sum. -/
structure Operand.LengthsAdd (record : Json) (a b : Operand) (count more : Nat) : Prop where
  left : (Operand.unary .length a).eval record = .ok (some (.ofInt count))
  right : (Operand.unary .length b).eval record = .ok (some (.ofInt more))
  joined : (Operand.unary .length (.binary .concat a b)).eval record
    = .ok (some (.ofInt (count + more)))

theorem StringTest.holds_endsWith_iff
    : StringTest.endsWith.holds s t ↔ ∃ x : String, x ++ t = s := by
  rw [holds, List.isSuffixOf_iff_suffix]
  constructor
  · rintro ⟨front, whole⟩
    exact ⟨String.ofList front, String.toList_injective (by simpa using whole)⟩
  · rintro ⟨x, rfl⟩
    exact ⟨x.toList, by simp⟩

theorem Operand.testsAgree_of_isPlace {place : Int}
    (isPlace : Text.IsPlace t.toList s.toList place)
    (left : a.eval record = .ok (some (.string s)))
    (right : b.eval record = .ok (some (.string t)))
    : TestsAgree record a b place := by
  obtain ⟨starts, contains⟩ := isPlace.prefix_iff
  constructor
  · have same := (Text.occursIn_iff.trans contains).trans decide_eq_true_iff.symm
    rw [StringTest.accepts_eq _ right left, StringTest.holds, Bool.eq_iff_iff.mpr same]
  · have same := (List.isPrefixOf_iff_prefix.trans starts).trans decide_eq_true_iff.symm
    rw [StringTest.accepts_eq _ left right, StringTest.holds, Bool.eq_iff_iff.mpr same]
  · refine ⟨_, StringTest.accepts_eq _ left right, StringTest.holds_endsWith_iff.trans ?_⟩
    refine exists_congr fun x => ?_
    rw [left, BinaryFunction.eval_eq .concat rfl right]
    simp

theorem Operand.lengthsAdd (left : a.eval record = .ok (some (.string s)))
    (right : b.eval record = .ok (some (.string t)))
    : LengthsAdd record a b (Text.unitCount s.toList) (Text.unitCount t.toList) := by
  refine ⟨eval_length left, eval_length right, ?_⟩
  rw [eval_length (BinaryFunction.eval_eq .concat left right), String.toList_append,
    Text.unitCount_append, Int.natCast_add]

/-- A search gives the first place of the needle in UTF-16 units, or -1 if it is nowhere, and the
tests of strings and the lengths agree with it. Integers that fit 64 bits are given exactly.
-/
theorem Operand.eval_indexOf (left : a.eval record = .ok (some (.string s)))
    (right : b.eval record = .ok (some (.string t)))
    : (∃ place, Text.IsPlace t.toList s.toList place
        ∧ (Operand.binary .indexOf a b).eval record = .ok (some (.ofInt place))
        ∧ TestsAgree record a b place)
      ∧ LengthsAdd record a b (Text.unitCount s.toList) (Text.unitCount t.toList)
      ∧ ∀ n (inRange : Number.InRange n), Json.ofInt n = .number (.int n inRange) := by
  obtain ⟨place, isPlace, found⟩ := Json.exists_indexOf_eq s t
  refine ⟨⟨place, isPlace, ?_, testsAgree_of_isPlace isPlace left right⟩,
    lengthsAdd left right, fun _ => Json.ofInt_of_inRange⟩
  rw [BinaryFunction.eval_eq .indexOf left right, found]

end Calls

/-- A character outside the basic plane counts as two units. -/
theorem Operand.eval_indexOf_pairs
    : let text := Json.string "😀é😀b"
      let needle := Json.string "😀b"
      (Operand.literal text).eval .null = .ok (some text)
      ∧ (Operand.literal needle).eval .null = .ok (some needle)
      ∧ (Operand.binary .indexOf (.literal text) (.literal needle)).eval .null
        = .ok (some (.number (.int 3 (by decide))))
      ∧ Text.IsFirstAt (Text.units "😀b".toList) (Text.units "😀é😀b".toList) 3
      ∧ Operand.LengthsAdd .null (.literal text) (.literal needle) 6 3 := by
  intro text needle
  have left : (Operand.literal text).eval .null = .ok (some text) := rfl
  have right : (Operand.literal needle).eval .null = .ok (some needle) := rfl
  obtain ⟨⟨place, isPlace, found, _⟩, lengths, _⟩ := eval_indexOf left right
  have here : Json.indexOf "😀é😀b" "😀b" = .number (.int 3 (by decide)) := by decide +kernel
  have three := BinaryFunction.eval_eq .indexOf left right
  simp only [here] at three
  refine ⟨left, right, three, ?_, lengths⟩
  have same : Json.number (.int 3 (by decide)) = .ofInt place :=
    Option.some.inj (Except.ok.inj (three.symm.trans found))
  have kept := Number.int.inj (Json.number.inj same)
  have high : twoPow 64 = 18446744073709551616 := by decide
  cases isPlace with
  | @found place first =>
      obtain rfl : place = 3 := by omega
      exact first
  | nowhere => omega

end RecordQuery
