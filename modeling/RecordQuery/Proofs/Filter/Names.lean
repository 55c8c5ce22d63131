import RecordQuery.Proofs.Filter.Grammar
import RecordQuery.Proofs.Text.Words

/-! The words of filter texts: the names of functions, tests and comparisons, the constants and the
words that no path starts with. A name is looked up in the list of all that have one, and what is
found is the one with that name. Every such word is made of identifier characters.
-/

namespace RecordQuery

/-- Where every element is listed and keys tell elements apart, the one with a key is found. -/
theorem find?_key_eq_some {α : Type} {all : List α} {key : α → String} {name : String} {a : α}
    (complete : ∀ a, a ∈ all) (distinct : ∀ a ∈ all, ∀ b ∈ all, key a = key b → a = b)
    : all.find? (fun a => key a = name) = some a ↔ key a = name := by
  constructor
  · intro found
    simpa using List.find?_some found
  · intro equal
    subst equal
    cases found : all.find? (fun b => key b = key a) with
    | none => simpa using List.find?_eq_none.mp found a (complete a)
    | some b =>
        have same : key b = key a := by simpa using List.find?_some found
        rw [distinct b (complete b) a (complete a) same]

theorem Function.mem_all (function : Function) : function ∈ Function.all := by
  rcases function with f | f | f <;> cases f <;> decide

/-- The function that is found is the one with the name. -/
theorem Function.ofName?_eq_some {name : String} {function : Function}
    : Function.ofName? name = some function ↔ function.name = name :=
  find?_key_eq_some Function.mem_all (by decide)

theorem Comparison.ofName?_eq_some {name : String} {operator : Comparison}
    : Comparison.ofName? name = some operator ↔ operator.name = name :=
  find?_key_eq_some (fun operator => by cases operator <;> decide) (by decide)

theorem StringTest.ofName?_eq_some {name : String} {test : StringTest}
    : StringTest.ofName? name = some test ↔ test.name = name :=
  find?_key_eq_some (fun test => by cases test <;> decide) (by decide)

/-- A word without an operator of its name is no operator's name. -/
theorem Comparison.ofName?_isSome {name : String}
    : (Comparison.ofName? name).isSome = true ↔ ∃ operator : Comparison, operator.name = name := by
  rw [Option.isSome_iff_exists]
  simp only [Comparison.ofName?_eq_some]

namespace Scan

open Grammar

/-- The value of a word is the one of the constant with that name. -/
theorem wordValue?_eq_some {word : String} {value : Json}
    : wordValue? word = some value ↔ (word, value) ∈ constants := by
  simp only [wordValue?, constants, List.mem_cons, Prod.mk.injEq, List.not_mem_nil, or_false]
  constructor
  · intro found
    split at found
    · cases found
      simp [*]
    · split at found
      · cases found
        simp [*]
      · split at found
        · cases found
          simp [*]
        · simp at found
  · intro held
    rcases held with ⟨rfl, rfl⟩ | ⟨rfl, rfl⟩ | ⟨rfl, rfl⟩ <;> decide

theorem wordValue?_eq_none {word : String}
    : wordValue? word = none ↔ word ∉ constants.map Prod.fst := by
  rw [List.mem_map, Option.eq_none_iff_forall_ne_some]
  simp only [ne_eq, wordValue?_eq_some, Prod.exists, exists_and_right, exists_eq_right, not_exists]

/-- The words that are checked for in front of a path are the reserved ones. -/
theorem mem_reservedWords {word : String}
    : word ∈ reservedWords
      ↔ word ∈ unsupportedOperators ∨ word = "and" ∨ word = "or"
        ∨ (Comparison.ofName? word).isSome = true := by
  rw [Comparison.ofName?_isSome]
  constructor
  · have listed : ∀ word ∈ reservedWords, word ∈ unsupportedOperators ∨ word = "and" ∨ word = "or"
        ∨ ∃ operator ∈ Comparison.all, operator.name = word := by
      decide
    intro member
    exact (listed word member).imp_right (Or.imp_right (Or.imp_right
      (fun ⟨operator, _, same⟩ => ⟨operator, same⟩)))
  · have unsupported : ∀ word ∈ unsupportedOperators, word ∈ reservedWords := by decide
    intro held
    rcases held with member | rfl | rfl | ⟨operator, rfl⟩
    · exact unsupported word member
    · decide
    · decide
    · cases operator <;> decide

end Scan

-----------------------------------------------------------------------------------------
-- All words of the grammar are made of identifier characters
-----------------------------------------------------------------------------------------

/-- A word of a filter text: it does not start with a digit and has identifier characters only. -/
def Grammar.IsWord (word : String) : Prop :=
  word ≠ "" ∧ (∀ c ∈ word.toList, Text.isWordChar c = true)
    ∧ ∀ c ∈ word.toList.head?, Text.isDigit c = false

instance (word : String) : Decidable (Grammar.IsWord word) :=
  decidable_of_iff (word ≠ "" ∧ word.toList.all Text.isWordChar = true
      ∧ word.toList.head?.any Text.isDigit = false)
    (and_congr_right' (and_congr List.all_eq_true (by cases word.toList.head? <;> simp)))

namespace Grammar

/-- The words of the grammar: all names, and the words between conditions. -/
def keywords : List String :=
  ["and", "or"] ++ Function.all.map Function.name ++ Comparison.all.map Comparison.name
    ++ StringTest.all.map StringTest.name ++ literalTypes ++ constants.map Prod.fst

/-- All words of the grammar are made like words. They are checked together, because it takes the
table of letters and digits to do so.
-/
theorem isWord_of_mem_keywords {word : String} (member : word ∈ keywords) : IsWord word := by
  have listed : ∀ word ∈ keywords, IsWord word := by decide +kernel
  exact listed word member

/-- A word between conditions is a word. -/
theorem isWord_of_joins {word : String} (joins : word ∈ ["and", "or"]) : IsWord word :=
  isWord_of_mem_keywords (by simp only [keywords, List.mem_append, joins, true_or])

theorem isWord_literalType {type : String} (known : type ∈ literalTypes) : IsWord type :=
  isWord_of_mem_keywords (by simp only [keywords, List.mem_append, known, true_or, or_true])

theorem isWord_constant {word : String} {value : Json} (known : (word, value) ∈ constants)
    : IsWord word := by
  have named : word ∈ constants.map Prod.fst := List.mem_map_of_mem known
  exact isWord_of_mem_keywords (by simp only [keywords, List.mem_append, named, or_true])

end Grammar

theorem Function.isWord_name (function : Function) : Grammar.IsWord function.name := by
  have named : function.name ∈ Function.all.map Function.name :=
    List.mem_map_of_mem function.mem_all
  exact Grammar.isWord_of_mem_keywords
    (by simp only [Grammar.keywords, List.mem_append, named, true_or, or_true])

theorem Comparison.isWord_name (operator : Comparison) : Grammar.IsWord operator.name := by
  have named : operator.name ∈ Comparison.all.map Comparison.name :=
    List.mem_map_of_mem (by cases operator <;> decide)
  exact Grammar.isWord_of_mem_keywords
    (by simp only [Grammar.keywords, List.mem_append, named, true_or, or_true])

theorem StringTest.isWord_name (test : StringTest) : Grammar.IsWord test.name := by
  have named : test.name ∈ StringTest.all.map StringTest.name :=
    List.mem_map_of_mem (by cases test <;> decide)
  exact Grammar.isWord_of_mem_keywords
    (by simp only [Grammar.keywords, List.mem_append, named, true_or, or_true])

end RecordQuery
