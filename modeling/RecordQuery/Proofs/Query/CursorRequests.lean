import RecordQuery.Proofs.FormEncoding
import RecordQuery.Proofs.Number.Digits
import RecordQuery.Proofs.Query.QueryStrings
import RecordQuery.Proofs.Text.Words

/-! Query strings that ask for pages by cursor. The size of the pages and the cursor are read back
from the string as they went into it, but a blank cursor counts as none.
-/

namespace RecordQuery

namespace Text

/-- A number that fits a word is read back from its digits. -/
theorem unsigned64?_digitsOf (count : UInt64)
    : unsigned64? (digitsOf count.toNat) = some count := by
  have digits : (digitsOf count.toNat).all isDigit :=
    List.all_eq_true.mpr fun _ member => isDigit_of_mem_digitsOf member
  have unsigned : (digitsOf count.toNat).head? ≠ some '+' := by
    intro sign
    exact absurd (isDigit_of_mem_digitsOf (List.mem_of_head? sign)) (by decide)
  have natural : natural? (digitsOf count.toNat) = some count.toNat := by
    rw [natural?, digits, digitsValue_digitsOf]
    simp [digitsOf_ne_nil]
  have small : count.toNat < twoPow 64 := count.toNat_lt
  rw [unsigned64?, if_neg unsigned, natural]
  simp [small]

theorem isAllBlank_digitsOf (n : Nat) : isAllBlank (String.ofList (digitsOf n)) = false := by
  obtain ⟨c, rest, digits⟩ := List.exists_cons_of_ne_nil (digitsOf_ne_nil n)
  have first : isDigit c := isDigit_of_mem_digitsOf (digits ▸ List.mem_cons_self)
  rw [isAllBlank, String.toList_ofList, digits, List.all_cons, isBlank_of_isDigit first]
  rfl

theorem isTrimmed_digitsOf (n : Nat) : IsTrimmed (digitsOf n) :=
  ⟨fun _ first => isBlank_of_isDigit (isDigit_of_mem_digitsOf (List.mem_of_head? first)),
    fun _ last => isBlank_of_isDigit (isDigit_of_mem_digitsOf (List.mem_of_getLast? last))⟩

end Text

namespace FormEncoding

/-- Digits stand for themselves. -/
theorem encodeText_digitsOf (n : Nat)
    : encodeText (String.ofList (Text.digitsOf n)) = Text.digitsOf n := by
  refine encodeText_of_isPlain fun c member => ?_
  obtain ⟨low, high⟩ := Text.toNat_of_isDigit (Text.isDigit_of_mem_digitsOf member)
  have least : (0x30 : UInt8) ≤ UInt8.ofNat c.toNat := Text.octet_le_octet low (by omega)
  have most : UInt8.ofNat c.toNat ≤ 0x39 := Text.octet_le_octet high (by decide)
  have digit : (0x30 ≤ UInt8.ofNat c.toNat && UInt8.ofNat c.toNat ≤ 0x39) = true := by
    rw [decide_eq_true least, decide_eq_true most]
    rfl
  refine ⟨by omega, ?_⟩
  rw [isPlain, digit]
  rfl

end FormEncoding

namespace PageRequest

/-- The query string that asks for a page by cursor. -/
def cursorText (after : Option String) (top : UInt64) : String :=
  String.ofList ("pagingtype=cursor&top=".toList ++ Text.digitsOf top.toNat
    ++ match after with
      | none => []
      | some wanted => "&after=".toList ++ FormEncoding.encodeText wanted)

/-- The pairs of that query string. -/
def cursorPairs (after : Option String) (top : UInt64) : List FormEncoding.Pair :=
  ("pagingtype", "cursor") :: ("top", String.ofList (Text.digitsOf top.toNat))
    :: after.toList.map (fun wanted => ("after", wanted))

theorem cursorText_eq (after : Option String) (top : UInt64)
    : cursorText after top = FormEncoding.encode (cursorPairs after top) := by
  have type : FormEncoding.encodePair ("pagingtype", "cursor") = "pagingtype=cursor".toList := by
    decide
  have size (value : String)
      : FormEncoding.encodePair ("top", value) = "top=".toList ++ FormEncoding.encodeText value :=
    FormEncoding.encodePair_of_encodeText_eq (by decide) value
  have place (value : String)
      : FormEncoding.encodePair ("after", value)
        = "after=".toList ++ FormEncoding.encodeText value :=
    FormEncoding.encodePair_of_encodeText_eq (by decide) value
  unfold cursorText cursorPairs FormEncoding.encode
  cases after with
  | none =>
      simp only [Option.toList_none, List.map_nil, List.map_cons, type, size,
        FormEncoding.encodeText_digitsOf]
      rfl
  | some wanted =>
      simp only [Option.toList_some, List.map_nil, List.map_cons, type, size, place,
        FormEncoding.encodeText_digitsOf, List.intercalate_cons_cons, List.intercalate_singleton]
      simp [List.append_assoc]

/-- The pairs are read back from the query string. -/
theorem decode_cursorText (after : Option String) (top : UInt64)
    : FormEncoding.decode (cursorText after top) = cursorPairs after top := by
  rw [cursorText_eq, FormEncoding.decode_encode]

/-- A cursor that is not blank; a blank one counts as none. -/
def givenCursor (after : Option String) : Option String :=
  after.filter (fun wanted => !Text.isAllBlank wanted)

/-- Each parameter has the value that went into the query string, and all others have none. -/
theorem value?_cursorPairs (parameter : Parameter) (after : Option String) (top : UInt64)
    : parameter.value? (cursorPairs after top)
      = match parameter with
        | .pagingType => some "cursor"
        | .top => some (String.ofList (Text.digitsOf top.toNat))
        | .after => givenCursor after
        | _ => none := by
  have type : Text.isAllBlank "cursor" = false := by decide
  have size := Text.isAllBlank_digitsOf top.toNat
  cases parameter <;> cases after <;>
    simp [Parameter.value?, cursorPairs, Parameter.isNamedBy, Parameter.name, givenCursor, type,
      size]

theorem ofPairs_cursorPairs (defaults : PageDefaults) (after : Option String) {top : UInt64}
    (nonzero : top ≠ 0)
    : Query.ofPairs defaults (cursorPairs after top)
      = .ok ⟨none, [], [], .cursor (givenCursor after) top⟩ := by
  have size : CountName.top.read (cursorPairs after top) defaults.top = .ok top := by
    unfold CountName.read
    rw [value?_cursorPairs]
    dsimp only [CountName.parameter]
    rw [String.toList_ofList, (Text.isTrimmed_digitsOf _).trim_eq, Text.unsigned64?_digitsOf]
  have page : ofPairs defaults (cursorPairs after top) = .ok (.cursor (givenCursor after) top) := by
    have type : Text.trimmed "cursor" = "cursor" := by decide
    unfold ofPairs
    rw [value?_cursorPairs, value?_cursorPairs]
    dsimp only [Option.map_some]
    rw [type, size]
    dsimp only [bind, Except.bind, pure, Except.pure]
    rw [check, if_neg nonzero]
    rfl
  unfold Query.ofPairs Parameter.readWith
  rw [value?_cursorPairs, value?_cursorPairs, value?_cursorPairs, page]
  rfl

/-- What the query string asks for. -/
theorem ofString_cursorText (defaults : PageDefaults) (after : Option String) {top : UInt64}
    (nonzero : top ≠ 0)
    : Query.ofString defaults (cursorText after top)
      = .ok ⟨none, [], [], .cursor (givenCursor after) top⟩ := by
  have start : (cursorText after top).toList.head? = some 'p' := by
    unfold cursorText
    rw [String.toList_ofList, List.append_assoc, List.head?_append]
    rfl
  have unmarked : (cursorText after top).toList.head? ≠ some '?' := by
    rw [start]
    decide
  rw [Query.ofString_eq_ofPairs, if_neg unmarked, decode_cursorText,
    ofPairs_cursorPairs defaults after nonzero]

end PageRequest

end RecordQuery
