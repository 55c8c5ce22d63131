import Mathlib.Order.MinMax
import RecordQuery.Proofs.Query.CursorWalk

/-! Pages by number, pages by offset and the number of pages that clients are told. A numbered page
is the page by offset behind the pages before it, and it holds records up to one page more than the
number that is told.
-/

namespace RecordQuery.PageRequest

/-- What is told of some records is how many whole pages lie before the last one of them. -/
theorem pageCount_succ (before : Nat) (size : UInt64)
    : pageCount (before + 1) size = before / size.toNat := by
  rw [pageCount, if_neg (Nat.succ_ne_zero before), Nat.succ_div]
  by_cases whole : size.toNat ∣ before + 1
  · rw [if_pos (Nat.mod_eq_zero_of_dvd whole), if_pos whole, Nat.add_sub_cancel]
  · rw [if_neg (mt Nat.dvd_of_mod_eq_zero whole), if_neg whole, Nat.add_zero]

/-- A page starts with a record just where its number is at most one more than what is told. -/
theorem mul_lt_iff_le_pageCount {total number : Nat} {size : UInt64} (pos : 0 < size.toNat)
    (some : total ≠ 0)
    : (number - 1) * size.toNat < total ↔ number ≤ pageCount total size + 1 := by
  obtain ⟨before, rfl⟩ := Nat.exists_eq_succ_of_ne_zero some
  rw [Nat.succ_eq_add_one, pageCount_succ, Nat.lt_succ_iff, ← Nat.le_div_iff_mul_le pos,
    Nat.sub_le_iff_le_add]

theorem take_drop_ne_nil_iff {records : List Json} {before size : Nat} (pos : 0 < size)
    : (records.drop before).take size ≠ [] ↔ before < records.length := by
  rw [ne_eq, List.take_eq_nil_iff, List.drop_eq_nil_iff]
  omega

/-- A page is full just where as many records as its number of pages hold are there. -/
theorem length_page_eq_iff {records : List Json} {number size : Nat} (pos : 0 < size)
    (numbered : number ≠ 0)
    : ((records.drop ((number - 1) * size)).take size).length = size
      ↔ number * size ≤ records.length := by
  obtain ⟨before, rfl⟩ := Nat.exists_eq_succ_of_ne_zero numbered
  rw [List.length_take, List.length_drop, min_eq_left_iff, Nat.succ_sub_one, Nat.succ_mul]
  omega

/-- The page of a number, for any records that can be counted in a word. It is the page by offset
behind as many records as the pages before it hold, and empty where so many are no word. Of some
records it holds at least one up to the page behind those that are told, and it is full just where
there are records for all pages up to it. Without records it is empty, and one page is told.
-/
theorem page_paging_agrees (cursorOf : CursorKey) (records : List Json) (number size : UInt64)
    (numbered : number ≠ 0) (sized : size ≠ 0) (fits : records.length < twoPow 64)
    : ∃ data pages,
        (paging number size).page cursorOf records = .ok ⟨data, .paging number size pages⟩
        ∧ (size.toNat * (number.toNat - 1) < twoPow 64
          → ∃ summary, (offset (UInt64.ofNat (size.toNat * (number.toNat - 1))) size).page cursorOf
            records = .ok ⟨data, summary⟩)
        ∧ (twoPow 64 ≤ size.toNat * (number.toNat - 1) → data = [])
        ∧ (records ≠ [] → (data ≠ [] ↔ number.toNat ≤ pages + 1)
          ∧ (data.length = size.toNat ↔ number.toNat * size.toNat ≤ records.length))
        ∧ (records = [] → data = [] ∧ pages = 1) := by
  have pos : 0 < size.toNat := UInt64.pos_iff_ne_zero.mpr sized
  have first : 0 < number.toNat := UInt64.pos_iff_ne_zero.mpr numbered
  have named : number.toNat - 1 + 1 = number.toNat := Nat.sub_add_cancel first
  have answer : (paging (UInt64.ofNat (number.toNat - 1 + 1)) size).page cursorOf records = _ :=
    page_paging sized fits (named ▸ number.toNat_lt)
  rw [named, UInt64.ofNat_toNat] at answer
  refine ⟨_, _, answer, ?_, ?_, ?_, ?_⟩
  · intro word
    have skips : (UInt64.ofNat (size.toNat * (number.toNat - 1))).toNat
        = (number.toNat - 1) * size.toNat :=
      (UInt64.toNat_ofNat_of_lt' word).trans (Nat.mul_comm _ _)
    rw [← skips]
    exact ⟨_, rfl⟩
  · intro large
    rw [Nat.mul_comm, List.drop_eq_nil_of_le (Nat.le_trans (Nat.le_of_lt fits) large),
      List.take_nil]
  · intro filled
    have counted : records.length ≠ 0 := mt List.length_eq_zero_iff.mp filled
    constructor
    · rw [take_drop_ne_nil_iff pos, mul_lt_iff_le_pageCount pos counted]
    · exact length_page_eq_iff pos (Nat.ne_of_gt first)
  · rintro rfl
    exact ⟨by rw [List.drop_nil, List.take_nil], rfl⟩

/-- Of three records in pages of two, the second page is the one by offset behind two of them, and
not full; the page of the greatest number starts behind more records than a word counts.
-/
theorem page_paging_agrees_three
    : let records := [.object [("id", .string "a")], .object [("id", .string "b")],
        .object [("id", .string "c")]]
      let cursorOf := PropertyPath.cursor ⟨"id", rfl, by decide⟩
      (∃ data, (paging 2 2).page cursorOf records = .ok ⟨data, .paging 2 2 1⟩
        ∧ (∃ summary, (offset 2 2).page cursorOf records = .ok ⟨data, summary⟩)
        ∧ data ≠ [] ∧ data.length ≠ (2 : UInt64).toNat)
      ∧ ∃ pages, (paging 18446744073709551615 2).page cursorOf records
        = .ok ⟨[], .paging 18446744073709551615 2 pages⟩ := by
  intro records cursorOf
  constructor
  · obtain ⟨data, pages, answer, same, _, filled, _⟩ :=
      page_paging_agrees cursorOf records 2 2 (by decide) (by decide) (by decide)
    obtain ⟨nonempty, full⟩ := filled (by decide)
    obtain rfl : pages = 1 := by
      cases answer
      decide
    exact ⟨data, answer, same (by decide), nonempty.mpr (by decide), mt full.mp (by decide)⟩
  · obtain ⟨data, pages, answer, _, far, _⟩ :=
      page_paging_agrees cursorOf records 18446744073709551615 2 (by decide) (by decide) (by decide)
    obtain rfl : data = [] := far (by decide)
    exact ⟨pages, answer⟩

end RecordQuery.PageRequest
