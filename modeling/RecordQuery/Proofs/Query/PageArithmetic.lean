import RecordQuery.Query.Paging

/-! The arithmetic of pages in 64-bit words. Each operation on words says by an absent result that
its true value is no word. A request that passes its check gets its page without meeting one, for
any records that can be counted in a word, and it is the page that arithmetic without bounds gives.
-/

namespace RecordQuery

namespace Word

/-- The word of a number, none where it is too great for one. -/
def ofNat? (n : Nat) : Option UInt64 :=
  if n < twoPow 64 then some (UInt64.ofNat n) else none

/-- The sum of two words. -/
def add? (x y : UInt64) : Option UInt64 :=
  ofNat? (x.toNat + y.toNat)

/-- The difference of two words, none below zero. -/
def sub? (x y : UInt64) : Option UInt64 :=
  if y ≤ x then some (x - y) else none

/-- The whole part of a quotient, none by zero. -/
def div? (x y : UInt64) : Option UInt64 :=
  if y = 0 then none else some (x / y)

/-- The rest of a division, none by zero. -/
def rem? (x y : UInt64) : Option UInt64 :=
  if y = 0 then none else some (x % y)

/-- The product of two words, or the greatest word where it is too great. -/
def saturatingMul (x y : UInt64) : UInt64 :=
  (ofNat? (x.toNat * y.toNat)).getD (UInt64.ofNat (twoPow 64 - 1))

end Word

namespace PageRequest

/-- The number of pages as clients are told, by arithmetic in words. -/
def pageCount? (total size : UInt64) : Option UInt64 :=
  if total = 0 then some 1
  else do
    let rest ← Word.rem? total size
    let whole ← Word.div? total size
    if rest = 0 then Word.sub? whole 1 else return whole

/-- The records before a page, by arithmetic in words. -/
def skipped? (number size : UInt64) : Option UInt64 := do
  let before ← Word.sub? number 1
  return Word.saturatingMul size before

/-- Where the page after a cursor starts, by arithmetic in words. -/
def startAfter? (cursorOf : CursorKey) (after : Option String) (records : List Json)
    : Option UInt64 :=
  match after with
  | some wanted =>
    match records.findIdx? (fun record => cursorOf record = some wanted) with
    | some place => do
      let index ← Word.ofNat? place
      Word.add? index 1
    | none => some 0
  | none => some 0

/-- The page of some records by arithmetic in words, none where a value on the way to it is no word.
-/
def wordPage? (cursorOf : CursorKey) (request : PageRequest) (records : List Json)
    : Option Page := do
  let total ← Word.ofNat? records.length
  match request with
  | .offset skip top =>
    return ⟨(records.drop skip.toNat).take top.toNat, .offset skip top total.toNat⟩
  | .cursor after top =>
    let after := after.filter (· ≠ "")
    let start ← startAfter? cursorOf after records
    let page := (records.drop start.toNat).take top.toNat
    match page.getLast? with
    | some last =>
      return ⟨page,
        .cursor after top (cursorOf last) (cursorOf last != records.getLast?.bind cursorOf)⟩
    | none => return ⟨page, .cursor after top none false⟩
  | .paging number size =>
    let count ← pageCount? total size
    let skip ← skipped? number size
    return ⟨(records.drop skip.toNat).take size.toNat, .paging number size count.toNat⟩

end PageRequest

-----------------------------------------------------------------------------------------
-- Operations on words
-----------------------------------------------------------------------------------------

namespace Word

variable {x y : UInt64}

theorem ofNat?_of_lt {n : Nat} (small : n < twoPow 64)
    : ∃ word, ofNat? n = some word ∧ word.toNat = n :=
  ⟨UInt64.ofNat n, if_pos small, UInt64.toNat_ofNat_of_lt' small⟩

theorem add?_of_lt (small : x.toNat + y.toNat < twoPow 64)
    : ∃ sum, add? x y = some sum ∧ sum.toNat = x.toNat + y.toNat :=
  ofNat?_of_lt small

theorem sub?_of_le (le : y ≤ x)
    : ∃ difference, sub? x y = some difference ∧ difference.toNat = x.toNat - y.toNat :=
  ⟨x - y, if_pos le, UInt64.toNat_sub_of_le x y le⟩

theorem div?_of_ne_zero (nonzero : y ≠ 0)
    : ∃ whole, div? x y = some whole ∧ whole.toNat = x.toNat / y.toNat :=
  ⟨x / y, if_neg nonzero, UInt64.toNat_div x y⟩

theorem rem?_of_ne_zero (nonzero : y ≠ 0)
    : ∃ rest, rem? x y = some rest ∧ rest.toNat = x.toNat % y.toNat :=
  ⟨x % y, if_neg nonzero, UInt64.toNat_mod x y⟩

theorem toNat_saturatingMul (x y : UInt64)
    : (saturatingMul x y).toNat = min (x.toNat * y.toNat) (twoPow 64 - 1) := by
  have most : twoPow 64 - 1 < twoPow 64 := Nat.sub_one_lt (Nat.ne_of_gt (twoPow_pos 64))
  by_cases small : x.toNat * y.toNat < twoPow 64
  · obtain ⟨word, found, same⟩ := ofNat?_of_lt small
    rw [saturatingMul, found, Option.getD_some, same,
      Nat.min_eq_left (Nat.le_sub_one_of_lt small)]
  · have large : twoPow 64 ≤ x.toNat * y.toNat := Nat.le_of_not_lt small
    rw [saturatingMul, ofNat?, if_neg small, Option.getD_none,
      UInt64.toNat_ofNat_of_lt' most, Nat.min_eq_right (Nat.le_trans (Nat.sub_le _ _) large)]

theorem eq_zero_iff (x : UInt64) : x = 0 ↔ x.toNat = 0 :=
  UInt64.toNat_inj.symm

theorem one_le_of_ne_zero (nonzero : x ≠ 0) : 1 ≤ x :=
  UInt64.le_iff_toNat_le.mpr (Nat.one_le_iff_ne_zero.mpr (mt (eq_zero_iff x).mpr nonzero))

end Word

-----------------------------------------------------------------------------------------
-- Numbers of a page
-----------------------------------------------------------------------------------------

namespace PageRequest

variable {cursorOf : CursorKey} {records : List Json}

/-- Pages that are not empty can be counted: where they hold all records, there is at least one. -/
theorem pageCount?_of_ne_zero (total : UInt64) {size : UInt64} (nonzero : size ≠ 0)
    : ∃ count, pageCount? total size = some count
      ∧ count.toNat = pageCount total.toNat size := by
  unfold pageCount? pageCount
  by_cases empty : total = 0
  · refine ⟨1, if_pos empty, ?_⟩
    rw [if_pos ((Word.eq_zero_iff total).mp empty)]
    rfl
  · obtain ⟨rest, divided, restOf⟩ := Word.rem?_of_ne_zero (x := total) nonzero
    obtain ⟨whole, divided', wholeOf⟩ := Word.div?_of_ne_zero (x := total) nonzero
    have filled : total.toNat ≠ 0 := mt (Word.eq_zero_iff total).mpr empty
    rw [if_neg empty, if_neg filled, divided, divided', ← restOf, ← wholeOf]
    dsimp only [bind, Option.bind]
    by_cases even : rest = 0
    · have full : size.toNat ∣ total.toNat :=
        Nat.dvd_of_mod_eq_zero (restOf ▸ (Word.eq_zero_iff rest).mp even)
      have pos : 0 < total.toNat / size.toNat :=
        Nat.div_pos (Nat.le_of_dvd (Nat.pos_of_ne_zero filled) full)
          (Nat.pos_of_ne_zero (mt (Word.eq_zero_iff size).mpr nonzero))
      have first : 1 ≤ whole := UInt64.le_iff_toNat_le.mpr (wholeOf ▸ pos)
      rw [if_pos even, if_pos ((Word.eq_zero_iff rest).mp even)]
      exact Word.sub?_of_le first
    · rw [if_neg even, if_neg (mt (Word.eq_zero_iff rest).mpr even)]
      exact ⟨whole, rfl, rfl⟩

theorem skipped?_of_ne_zero {number : UInt64} (nonzero : number ≠ 0) (size : UInt64)
    : ∃ skip, skipped? number size = some skip ∧ skip.toNat = skipped number size := by
  have first := Word.one_le_of_ne_zero nonzero
  refine ⟨Word.saturatingMul size (number - 1), ?_, Word.toNat_saturatingMul size (number - 1)⟩
  rw [skipped?, Word.sub?, if_pos first]
  rfl

/-- The place behind a record that is found is a word, because the record is one of those counted.
-/
theorem startAfter?_of_lt (fits : records.length < twoPow 64) (cursorOf : CursorKey)
    (after : Option String)
    : ∃ start, startAfter? cursorOf after records = some start
      ∧ start.toNat = startAfter cursorOf after records := by
  unfold startAfter? startAfter
  cases after with
  | none => exact ⟨0, rfl, rfl⟩
  | some wanted =>
      dsimp only
      cases found : records.findIdx? (fun record => cursorOf record = some wanted) with
      | none => exact ⟨0, rfl, rfl⟩
      | some place =>
          obtain ⟨inside, _⟩ := List.findIdx?_eq_some_iff_getElem.mp found
          obtain ⟨index, counted, same⟩ := Word.ofNat?_of_lt (Nat.lt_trans inside fits)
          have next : index.toNat + (1 : UInt64).toNat < twoPow 64 :=
            same ▸ Nat.lt_of_le_of_lt inside fits
          obtain ⟨start, added, sum⟩ := Word.add?_of_lt next
          refine ⟨start, ?_, same ▸ sum⟩
          dsimp only
          rw [counted]
          exact added

-----------------------------------------------------------------------------------------
-- Pages
-----------------------------------------------------------------------------------------

/-- A request that passes its check gets a page of whatever records. -/
theorem exists_page_of_check {request : PageRequest} (checked : request.check = .ok ())
    (cursorOf : CursorKey) (records : List Json)
    : ∃ page, request.page cursorOf records = .ok page := by
  unfold page
  rw [checked]
  cases request with
  | offset skip top => exact ⟨_, rfl⟩
  | cursor after top => exact ⟨_, rfl⟩
  | paging number size => exact ⟨_, rfl⟩

/-- A request that passes its check gets the same page by arithmetic in words. -/
theorem wordPage?_of_check {request : PageRequest} (checked : request.check = .ok ())
    (fits : records.length < twoPow 64) (cursorOf : CursorKey)
    : ∃ page, request.wordPage? cursorOf records = some page
      ∧ request.page cursorOf records = .ok page := by
  obtain ⟨total, counted, length⟩ := Word.ofNat?_of_lt fits
  unfold wordPage? page
  rw [counted, checked]
  cases request with
  | offset skip top => exact ⟨_, rfl, length ▸ rfl⟩
  | cursor after top =>
      obtain ⟨start, placed, same⟩ :=
        startAfter?_of_lt fits cursorOf (after.filter (· ≠ ""))
      refine ⟨cursorPage cursorOf after top records, ?_, rfl⟩
      unfold cursorPage
      dsimp only [bind, Option.bind]
      rw [placed, ← same]
      dsimp only
      cases ((records.drop start.toNat).take top.toNat).getLast? with
      | none => rfl
      | some last => rfl
  | paging number size =>
      have sized : size ≠ 0 := by
        rintro rfl
        cases checked
      have numbered : number ≠ 0 := by
        rintro rfl
        rw [check, if_neg sized] at checked
        cases checked
      obtain ⟨count, pages, countOf⟩ := pageCount?_of_ne_zero total sized
      obtain ⟨skip, before, skipOf⟩ := skipped?_of_ne_zero numbered size
      refine ⟨⟨(records.drop skip.toNat).take size.toNat, .paging number size count.toNat⟩, ?_, ?_⟩
      · dsimp only [bind, Option.bind]
        rw [pages, before]
        rfl
      · rw [countOf, skipOf, length]
        rfl

/-- A page that fails the check has no number in words. -/
example : (paging 0 10).wordPage? (fun _ => none) [.null] = none := by
  decide

end PageRequest

end RecordQuery
