import RecordQuery.FormEncoding
import RecordQuery.Proofs.Text.Utf8

/-! Pairs are read back from their encoded form. An encoded octet is itself, a plus sign, or a
percent sign with two digits, so that no octet that divides pairs stands inside an encoded text.
-/

namespace RecordQuery

namespace Text

@[simp]
theorem octets_nil : octets [] = [] := rfl

@[simp]
theorem octets_append (left right : List Char)
    : octets (left ++ right) = octets left ++ octets right :=
  List.flatMap_append

/-- An ASCII character is one octet. -/
theorem octets_cons_of_ascii {c : Char} (ascii : c.toNat ≤ 0x7F) (rest : List Char)
    : octets (c :: rest) = UInt8.ofNat c.toNat :: octets rest := by
  have single : String.utf8EncodeChar c = [UInt8.ofNat c.toNat] := if_pos ascii
  rw [octets, List.flatMap_cons, single]
  rfl

end Text

namespace FormEncoding

-----------------------------------------------------------------------------------------
-- Octets
-----------------------------------------------------------------------------------------

/-- The ampersand between pairs, the equals sign between a name and its value, and the question mark
in front of a query string.
-/
def separators : List UInt8 := [0x26, 0x3D, 0x3F]

/-- The octet of a hexadecimal digit in an escape. -/
def hexOctet (n : Nat) : UInt8 :=
  UInt8.ofNat (Nat.digitChar n).toUpper.toNat

theorem hexDigit?_hexOctet : ∀ n < 16, hexDigit? (hexOctet n) = some (UInt8.ofNat n) := by
  decide

theorem hexOctet_not_mem_separators : ∀ n < 16, hexOctet n ∉ separators := by
  decide

theorem octets_upper_digit : ∀ n < 16, Text.octets [(Nat.digitChar n).toUpper] = [hexOctet n] := by
  decide

theorem div_16_lt (b : UInt8) : b.toNat / 16 < 16 := by
  have small := b.toNat_lt
  omega

/-- Two digits stand for the octet that they were made from. -/
theorem escapedOctet?_hexOctet (b : UInt8) (rest : List UInt8)
    : escapedOctet? (hexOctet (b.toNat / 16) :: hexOctet (b.toNat % 16) :: rest) = some b := by
  have value : 16 * UInt8.ofNat (b.toNat / 16) + UInt8.ofNat (b.toNat % 16) = b := by
    have sixteen : (16 : UInt8).toNat = 16 := rfl
    rw [← UInt8.toNat_inj, UInt8.toNat_add, UInt8.toNat_mul, sixteen,
      Text.toNat_octet (Nat.lt_trans (div_16_lt b) (by decide)),
      Text.toNat_octet (Nat.lt_trans (Nat.mod_lt _ (by decide)) (by decide))]
    have small := b.toNat_lt
    omega
  rw [escapedOctet?, hexDigit?_hexOctet _ (div_16_lt b),
    hexDigit?_hexOctet _ (Nat.mod_lt _ (by decide))]
  exact congrArg some value

/-- The octets of an encoded octet. -/
theorem octets_encodeOctet (b : UInt8)
    : Text.octets (encodeOctet b)
      = if isPlain b then [b]
        else if b = 0x20 then [0x2B]
        else [0x25, hexOctet (b.toNat / 16), hexOctet (b.toNat % 16)] := by
  unfold encodeOctet
  split
  · next plain =>
      have small : b.toNat ≤ 0x7F := by
        simp only [isPlain, Bool.or_eq_true, Bool.and_eq_true, decide_eq_true_eq, beq_iff_eq,
          UInt8.le_iff_toNat_le, ← UInt8.toNat_inj, UInt8.toNat_ofNat] at plain
        omega
      have valid : b.toNat.isValidChar := .inl (by omega)
      have named : (Char.ofNat b.toNat).toNat = b.toNat := by
        rw [Char.ofNat, dif_pos valid]
        rfl
      rw [Text.octets_cons_of_ascii (by omega), named, UInt8.ofNat_toNat]
      rfl
  · split
    · rfl
    · have digits : Text.octets [(b.toNat / 16).digitChar.toUpper, (b.toNat % 16).digitChar.toUpper]
          = [hexOctet (b.toNat / 16)] ++ [hexOctet (b.toNat % 16)] := by
        rw [← octets_upper_digit _ (div_16_lt b),
          ← octets_upper_digit (b.toNat % 16) (Nat.mod_lt _ (by decide)), ← Text.octets_append]
        rfl
      rw [Text.octets_cons_of_ascii (by decide), digits]
      rfl

/-- A plain octet is none of those with a meaning of their own. -/
theorem ne_of_isPlain {b : UInt8} (plain : isPlain b)
    : b ≠ 0x2B ∧ b ≠ 0x25 ∧ b ∉ separators := by
  have other {special : UInt8} (marked : isPlain special = false) : b ≠ special := by
    rintro rfl
    rw [marked] at plain
    cases plain
  refine ⟨other rfl, other rfl, ?_⟩
  simp only [separators, List.mem_cons, List.not_mem_nil, or_false, not_or]
  exact ⟨other rfl, other rfl, other rfl⟩

/-- An encoded octet is read as that octet, whatever follows it. -/
theorem decodeAfter_encodeOctet (b : UInt8) (rest : List UInt8)
    : decodeAfter 0 (Text.octets (encodeOctet b) ++ rest) = b :: decodeAfter 0 rest := by
  rw [octets_encodeOctet]
  split
  · next plain =>
      obtain ⟨plus, percent, _⟩ := ne_of_isPlain plain
      rw [List.singleton_append, decodeAfter, if_neg plus, if_neg percent]
  · split
    · next space =>
        rw [space]
        rfl
    · rw [List.cons_append, decodeAfter, if_neg (by decide), if_pos rfl, List.cons_append,
        List.singleton_append, escapedOctet?_hexOctet]
      rfl

theorem not_mem_encodeOctet {separator : UInt8} (divides : separator ∈ separators) (b : UInt8)
    : separator ∉ Text.octets (encodeOctet b) := by
  intro member
  rw [octets_encodeOctet] at member
  split at member
  · next plain =>
      obtain rfl := List.mem_singleton.mp member
      exact (ne_of_isPlain plain).2.2 divides
  · split at member
    · obtain rfl := List.mem_singleton.mp member
      exact absurd divides (by decide)
    · simp only [List.mem_cons, List.not_mem_nil, or_false] at member
      obtain rfl | rfl | rfl := member
      · exact absurd divides (by decide)
      · exact hexOctet_not_mem_separators _ (div_16_lt b) divides
      · exact hexOctet_not_mem_separators _ (Nat.mod_lt _ (by decide)) divides

-----------------------------------------------------------------------------------------
-- Texts
-----------------------------------------------------------------------------------------

theorem octets_encodeText (s : String)
    : Text.octets (encodeText s)
      = (Text.octets s.toList).flatMap (fun b => Text.octets (encodeOctet b)) :=
  List.flatMap_assoc

/-- A text is read back from its encoded form. -/
theorem decodeText_encodeText (s : String) : decodeText (Text.octets (encodeText s)) = s := by
  have decoded (bytes : List UInt8)
      : decodeAfter 0 (bytes.flatMap (fun b => Text.octets (encodeOctet b))) = bytes := by
    induction bytes with
    | nil => rfl
    | cons b rest ih => rw [List.flatMap_cons, decodeAfter_encodeOctet, ih]
  rw [decodeText, octets_encodeText, decoded, Text.decodeOctets_octets, String.ofList_toList]

/-- An encoded text holds no separator. -/
theorem not_mem_encodeText {separator : UInt8} (divides : separator ∈ separators) (s : String)
    : separator ∉ Text.octets (encodeText s) := by
  intro member
  rw [octets_encodeText] at member
  obtain ⟨b, _, inside⟩ := List.mem_flatMap.mp member
  exact not_mem_encodeOctet divides b inside

/-- A text of characters that stand for themselves is its own encoded form. -/
theorem encodeText_of_isPlain {text : List Char}
    (plain : ∀ c ∈ text, c.toNat ≤ 0x7F ∧ isPlain (UInt8.ofNat c.toNat))
    : encodeText (String.ofList text) = text := by
  unfold encodeText
  rw [String.toList_ofList]
  induction text with
  | nil => rfl
  | cons c rest ih =>
      obtain ⟨ascii, itself⟩ := plain c List.mem_cons_self
      have named : Char.ofNat (UInt8.ofNat c.toNat).toNat = c := by
        rw [Text.toNat_octet (by omega), Char.ofNat_toNat]
      rw [Text.octets_cons_of_ascii ascii, List.flatMap_cons, encodeOctet, if_pos itself, named,
        ih fun d member => plain d (List.mem_cons_of_mem _ member)]
      rfl

-----------------------------------------------------------------------------------------
-- Pairs
-----------------------------------------------------------------------------------------

theorem octets_encodePair (pair : Pair)
    : Text.octets (encodePair pair)
      = Text.octets (encodeText pair.1) ++ 0x3D :: Text.octets (encodeText pair.2) := by
  rw [encodePair, Text.octets_append, Text.octets_cons_of_ascii (by decide)]
  rfl

/-- Of the separators, an encoded pair holds only the equals sign. -/
theorem not_mem_encodePair {separator : UInt8} (divides : separator ∈ separators)
    (other : separator ≠ 0x3D) (pair : Pair)
    : separator ∉ Text.octets (encodePair pair) := by
  have outside (s : String) : separator ∉ Text.octets (encodeText s) :=
    not_mem_encodeText divides s
  rw [octets_encodePair]
  simp [outside, other]

/-- A pair is read back from its encoded form, which has its first equals sign behind the name. -/
theorem decodePair_encodePair (pair : Pair)
    : decodePair (Text.octets (encodePair pair)) = pair := by
  have before : ∀ b ∈ Text.octets (encodeText pair.1), (b != 0x3D) = true := by
    intro b member
    rw [bne_iff_ne]
    rintro rfl
    exact not_mem_encodeText (by decide) pair.1 member
  rw [octets_encodePair, decodePair, List.takeWhile_append_of_pos before,
    List.dropWhile_append_of_pos before, List.takeWhile_cons_of_neg (by decide),
    List.dropWhile_cons_of_neg (by decide), List.append_nil, List.drop_one, List.tail_cons,
    decodeText_encodeText, decodeText_encodeText]

/-- A name that stands for itself opens the encoded pair. -/
theorem encodePair_of_encodeText_eq {name : String} (itself : encodeText name = name.toList)
    (value : String)
    : encodePair (name, value) = name.toList ++ '=' :: encodeText value := by
  rw [encodePair, itself]

/-- The octets of joined texts are joined octets. -/
theorem octets_intercalate (texts : List (List Char))
    : Text.octets (['&'].intercalate texts) = [0x26].intercalate (texts.map Text.octets) := by
  induction texts with
  | nil => rfl
  | cons text rest ih =>
      cases rest with
      | nil => simp
      | cons other rest =>
          rw [List.intercalate_cons_cons, Text.octets_append, Text.octets_append, ih]
          exact List.intercalate_cons_cons.symm

/-- Pairs are read back from their encoded form. -/
theorem decode_encode (pairs : List Pair) : decode (encode pairs) = pairs := by
  rw [decode, encode, String.toList_ofList, octets_intercalate, List.map_map]
  cases pairs with
  | nil => rfl
  | cons first rest =>
      have separate : ∀ piece ∈ (first :: rest).map (Text.octets ∘ encodePair), 0x26 ∉ piece := by
        intro piece member
        obtain ⟨pair, _, rfl⟩ := List.mem_map.mp member
        exact not_mem_encodePair (by decide) (by decide) pair
      have nonempty : ∀ piece ∈ (first :: rest).map (Text.octets ∘ encodePair),
          (!piece.isEmpty) = true := by
        intro piece member
        obtain ⟨pair, _, rfl⟩ := List.mem_map.mp member
        rw [Function.comp_apply, octets_encodePair]
        simp
      rw [List.splitOn_intercalate _ separate (List.cons_ne_nil _ _),
        List.filter_eq_self.mpr nonempty, List.map_map]
      refine (List.map_congr_left fun pair _ => ?_).trans (List.map_id _)
      exact decodePair_encodePair pair

/-- The encoded form of pairs does not start with a question mark. -/
theorem head?_encode_ne (pairs : List Pair) : (encode pairs).toList.head? ≠ some '?' := by
  rw [encode, String.toList_ofList]
  cases pairs with
  | nil => simp
  | cons first rest =>
      have start : ∃ others, ['&'].intercalate ((first :: rest).map encodePair)
          = encodePair first ++ others := by
        cases rest with
        | nil => exact ⟨[], by simp⟩
        | cons second rest =>
            exact ⟨_, by rw [List.map_cons, List.map_cons, List.intercalate_cons_cons,
              List.append_assoc]⟩
      obtain ⟨others, start⟩ := start
      obtain ⟨c, text, opening⟩ : ∃ c text, encodePair first = c :: text :=
        List.exists_cons_of_ne_nil (by simp [encodePair])
      rw [start, opening]
      intro mark
      obtain rfl : c = '?' := Option.some.inj mark
      have inside : 0x3F ∈ Text.octets (encodePair first) :=
        List.mem_flatMap.mpr ⟨'?', opening ▸ List.mem_cons_self, by decide⟩
      exact not_mem_encodePair (by decide) (by decide) first inside

end FormEncoding

end RecordQuery
