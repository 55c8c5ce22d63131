import RecordQuery.Text.Utf8

/-! Text is read back from its UTF-8 octets. The first octet of a character tells how many are to
come, and the range that it leaves to the second one holds the second octet of every character.
-/

namespace RecordQuery.Text

variable {rest : List UInt8} {v : Nat}

theorem toNat_octet {n : Nat} (small : n < 0x100) : (UInt8.ofNat n).toNat = n :=
  UInt8.toNat_ofNat_of_lt' small

theorem octet_le_octet {m n : Nat} (le : m ≤ n) (small : n < 0x100)
    : UInt8.ofNat m ≤ UInt8.ofNat n := by
  rw [UInt8.le_iff_toNat_le, toNat_octet small, toNat_octet (by omega)]
  exact le

/-- The scalar values are those below the surrogates and those above them. -/
theorem toNat_valid (c : Char) : c.toNat < 0xD800 ∨ 0xDFFF < c.toNat ∧ c.toNat < 0x110000 :=
  c.valid

-----------------------------------------------------------------------------------------
-- Octets after the first
-----------------------------------------------------------------------------------------

/-- An octet in range adds its six bits to a character under way. -/
theorem decodeFrom_more {bits more : Nat} {low high b : UInt8} (above : low ≤ b) (below : b ≤ high)
    : decodeFrom (some ⟨bits, low, high, more + 1⟩) (b :: rest)
      = decodeFrom (some ⟨bits * 0x40 + b.toNat % 0x40, 0x80, 0xBF, more⟩) rest := by
  have next : nextOctet (some ⟨bits, low, high, more + 1⟩) b
      = ([], some ⟨bits * 0x40 + b.toNat % 0x40, 0x80, 0xBF, more⟩) := by
    rw [nextOctet, if_pos ⟨above, below⟩]
    exact if_neg (Nat.succ_ne_zero more)
  rw [decodeFrom, next]
  rfl

/-- The last octet of a character completes it. -/
theorem decodeFrom_last {bits : Nat} {low high b : UInt8} (above : low ≤ b) (below : b ≤ high)
    : decodeFrom (some ⟨bits, low, high, 0⟩) (b :: rest)
      = Char.ofNat (bits * 0x40 + b.toNat % 0x40) :: decodeFrom none rest := by
  have next : nextOctet (some ⟨bits, low, high, 0⟩) b
      = ([Char.ofNat (bits * 0x40 + b.toNat % 0x40)], none) := by
    rw [nextOctet, if_pos ⟨above, below⟩]
    rfl
  rw [decodeFrom, next]
  rfl

/-- The octet of six bits of a character, which is none of the first octets. -/
theorem tail_octet (n : Nat)
    : (0x80 : UInt8) ≤ UInt8.ofNat (n % 64 + 128) ∧ UInt8.ofNat (n % 64 + 128) ≤ 0xBF
      ∧ (UInt8.ofNat (n % 64 + 128)).toNat % 0x40 = n % 64 := by
  have small : n % 64 + 128 < 0x100 := by omega
  have above : 0x80 ≤ n % 64 + 128 := by omega
  have below : n % 64 + 128 ≤ 0xBF := by omega
  refine ⟨octet_le_octet above small, octet_le_octet below (by decide), ?_⟩
  rw [toNat_octet small]
  omega

-----------------------------------------------------------------------------------------
-- First octets
-----------------------------------------------------------------------------------------

theorem firstOctet_of_one (small : v ≤ 0x7F)
    : firstOctet (UInt8.ofNat v) = ([Char.ofNat v], none) := by
  rw [firstOctet, toNat_octet (by omega)]
  exact if_pos (by omega)

theorem firstOctet_of_two (large : 0x7F < v) (small : v ≤ 0x7FF)
    : firstOctet (UInt8.ofNat (v / 64 % 32 + 192)) = ([], some ⟨v / 64, 0x80, 0xBF, 0⟩) := by
  rw [firstOctet, toNat_octet (by omega)]
  rw [if_neg (by omega), if_neg (by omega), if_pos (by omega)]
  congr 3
  omega

/-- The range after the first of three octets keeps out what two octets hold, and surrogates. -/
theorem firstOctet_of_three (large : 0x7FF < v) (small : v ≤ 0xFFFF)
    (valid : v < 0xD800 ∨ 0xDFFF < v)
    : ∃ low high, firstOctet (UInt8.ofNat (v / 4096 % 16 + 224))
        = ([], some ⟨v / 4096, low, high, 1⟩)
      ∧ low ≤ UInt8.ofNat (v / 64 % 64 + 128) ∧ UInt8.ofNat (v / 64 % 64 + 128) ≤ high := by
  have second : v / 64 % 64 + 128 < 0x100 := by omega
  rw [firstOctet, toNat_octet (by omega)]
  rw [if_neg (by omega), if_neg (by omega), if_neg (by omega)]
  by_cases least : v / 4096 = 0
  · rw [if_pos (by omega), least]
    have above : 0xA0 ≤ v / 64 % 64 + 128 := by omega
    have below : v / 64 % 64 + 128 ≤ 0xBF := by omega
    exact ⟨0xA0, 0xBF, rfl, octet_le_octet above second, octet_le_octet below (by decide)⟩
  by_cases high : v / 4096 = 0xD
  · rw [if_neg (by omega), if_pos (by omega), high]
    have above : 0x80 ≤ v / 64 % 64 + 128 := by omega
    have below : v / 64 % 64 + 128 ≤ 0x9F := by omega
    exact ⟨0x80, 0x9F, rfl, octet_le_octet above second, octet_le_octet below (by decide)⟩
  · rw [if_neg (by omega), if_neg (by omega), if_pos (by omega)]
    refine ⟨0x80, 0xBF, ?_, (tail_octet (v / 64)).1, (tail_octet (v / 64)).2.1⟩
    congr 3
    omega

/-- The range after the first of four octets keeps out what three hold, and what is no character.
-/
theorem firstOctet_of_four (large : 0xFFFF < v) (valid : v < 0x110000)
    : ∃ low high, firstOctet (UInt8.ofNat (v / 262144 % 8 + 240))
        = ([], some ⟨v / 262144, low, high, 2⟩)
      ∧ low ≤ UInt8.ofNat (v / 4096 % 64 + 128) ∧ UInt8.ofNat (v / 4096 % 64 + 128) ≤ high := by
  have second : v / 4096 % 64 + 128 < 0x100 := by omega
  rw [firstOctet, toNat_octet (by omega)]
  rw [if_neg (by omega), if_neg (by omega), if_neg (by omega), if_neg (by omega),
    if_neg (by omega), if_neg (by omega)]
  by_cases least : v / 262144 = 0
  · rw [if_pos (by omega), least]
    have above : 0x90 ≤ v / 4096 % 64 + 128 := by omega
    have below : v / 4096 % 64 + 128 ≤ 0xBF := by omega
    exact ⟨0x90, 0xBF, rfl, octet_le_octet above second, octet_le_octet below (by decide)⟩
  by_cases high : v / 262144 = 4
  · rw [if_neg (by omega), if_neg (by omega), if_pos (by omega), high]
    have above : 0x80 ≤ v / 4096 % 64 + 128 := by omega
    have below : v / 4096 % 64 + 128 ≤ 0x8F := by omega
    exact ⟨0x80, 0x8F, rfl, octet_le_octet above second, octet_le_octet below (by decide)⟩
  · rw [if_neg (by omega), if_pos (by omega)]
    refine ⟨0x80, 0xBF, ?_, (tail_octet (v / 4096)).1, (tail_octet (v / 4096)).2.1⟩
    congr 3
    omega

-----------------------------------------------------------------------------------------
-- Characters and text
-----------------------------------------------------------------------------------------

/-- The first octet of a character of several begins it. -/
theorem decodeFrom_first {b : UInt8} {begun : PartialChar}
    (first : firstOctet b = ([], some begun))
    : decodeFrom none (b :: rest) = decodeFrom (some begun) rest := by
  rw [decodeFrom, nextOctet, first]
  rfl

/-- The octets of a character are read as that character, whatever follows them. -/
theorem decodeFrom_encodeChar (c : Char) (rest : List UInt8)
    : decodeFrom none (String.utf8EncodeChar c ++ rest) = c :: decodeFrom none rest := by
  have valid := toNat_valid c
  have named : Char.ofNat c.toNat = c := Char.ofNat_toNat c
  unfold String.utf8EncodeChar
  rw [show c.val.toNat = c.toNat from rfl]
  generalize c.toNat = v at valid named
  dsimp only
  split
  · next one =>
      rw [List.singleton_append, decodeFrom, nextOctet, firstOctet_of_one one, named]
      rfl
  split
  · next one two =>
      obtain ⟨above, below, bits⟩ := tail_octet v
      rw [List.cons_append, List.singleton_append,
        decodeFrom_first (firstOctet_of_two (Nat.lt_of_not_le one) two),
        decodeFrom_last above below, bits, Nat.div_add_mod', named]
  split
  · next two three =>
      obtain ⟨low, high, first, least, most⟩ :=
        firstOctet_of_three (Nat.lt_of_not_le two) three (by omega)
      obtain ⟨_, _, middle⟩ := tail_octet (v / 64)
      obtain ⟨above, below, bits⟩ := tail_octet v
      have joined : (v / 4096 * 0x40 + v / 64 % 64) * 0x40 + v % 64 = v := by omega
      rw [List.cons_append, List.cons_append, List.singleton_append, decodeFrom_first first,
        decodeFrom_more least most, decodeFrom_last above below, middle, bits, joined, named]
  · next three =>
      obtain ⟨low, high, first, least, most⟩ :=
        firstOctet_of_four (Nat.lt_of_not_le three) (by omega)
      obtain ⟨_, _, second⟩ := tail_octet (v / 4096)
      obtain ⟨above, below, third⟩ := tail_octet (v / 64)
      obtain ⟨above', below', bits⟩ := tail_octet v
      have joined
          : ((v / 262144 * 0x40 + v / 4096 % 64) * 0x40 + v / 64 % 64) * 0x40 + v % 64 = v := by
        omega
      rw [List.cons_append, List.cons_append, List.cons_append, List.singleton_append,
        decodeFrom_first first, decodeFrom_more least most, decodeFrom_more above below,
        decodeFrom_last above' below', second, third, bits, joined, named]

/-- A text is read from its octets. -/
theorem decodeOctets_octets (text : List Char) : decodeOctets (octets text) = text := by
  unfold decodeOctets
  induction text with
  | nil => rfl
  | cons c rest ih =>
      rw [octets, List.flatMap_cons, decodeFrom_encodeChar]
      exact congrArg (c :: ·) ih

end RecordQuery.Text
