import RecordQuery.Proofs.Json.Fields
import RecordQuery.Proofs.Json.Nesting
import RecordQuery.Proofs.Json.Scalars

/-! Values are read back from their texts, if they are not nested too deeply and each double inside
them is read back. Fields of one name are read as one field, so a value whose objects have distinct
names is read as it was.
-/

namespace RecordQuery.Json

mutual
/-- The value with fields of one name put together, in all objects inside it. -/
def canonical : Json → Json
  | .array items => .array (canonicalItems items)
  | .object fields => .object (fieldsOf (canonicalFields fields))
  | value => value

/-- The items with fields of one name put together inside them. -/
def canonicalItems : List Json → List Json
  | [] => []
  | item :: rest => item.canonical :: canonicalItems rest

/-- The fields with fields of one name put together inside their values. -/
def canonicalFields : List Field → List Field
  | [] => []
  | (name, value) :: rest => (name, value.canonical) :: canonicalFields rest
end

mutual
/-- Every number inside a value is read back from its text. -/
def ReadsBack : Json → Prop
  | .number n => n.ReadsBack
  | .array items => ItemsReadBack items
  | .object fields => FieldsReadBack fields
  | _ => True

/-- Every number inside some items is read back. -/
def ItemsReadBack : List Json → Prop
  | [] => True
  | item :: rest => item.ReadsBack ∧ ItemsReadBack rest

/-- Every number inside the values of some fields is read back. -/
def FieldsReadBack : List Field → Prop
  | [] => True
  | (_, value) :: rest => value.ReadsBack ∧ FieldsReadBack rest
end

theorem itemsReadBack_iff {items : List Json}
    : ItemsReadBack items ↔ ∀ item ∈ items, item.ReadsBack := by
  induction items with
  | nil => simp [ItemsReadBack]
  | cons item rest ih => simp [ItemsReadBack, ih]

-----------------------------------------------------------------------------------------
-- White space
-----------------------------------------------------------------------------------------

theorem skipSpace_cons {c : Char} (solid : isSpace c = false) (rest : List Char)
    : skipSpace (c :: rest) = c :: rest := by
  rw [skipSpace, List.dropWhile_cons_of_neg (by simp [solid])]

/-- A text that starts with neither white space nor a closing bracket. -/
def StartsValue (text : List Char) : Prop :=
  ∃ c tail, text = c :: tail ∧ isSpace c = false ∧ c ≠ ']' ∧ c ≠ '\x7d'

theorem StartsValue.append {text : List Char} (starts : StartsValue text) (rest : List Char)
    : StartsValue (text ++ rest) := by
  obtain ⟨c, tail, rfl, solid⟩ := starts
  exact ⟨c, tail ++ rest, rfl, solid⟩

theorem StartsValue.skipSpace_eq {text : List Char} (starts : StartsValue text)
    : skipSpace text = text := by
  obtain ⟨c, tail, rfl, solid, _⟩ := starts
  exact skipSpace_cons solid tail

theorem startsValue_quote (s : String) : StartsValue (quote s) :=
  ⟨'"', _, rfl, rfl, by decide, by decide⟩

/-- A number starts with a digit or a sign. -/
theorem exists_head_text (n : Number)
    : ∃ c tail, n.text = c :: tail ∧ (Text.isDigit c = true ∨ c = '-') := by
  obtain ⟨numeral, text, written, complete, _⟩ := exists_numeral_text n
  obtain ⟨c, first, sign⟩ := written.exists_head complete.nonempty
  obtain ⟨tail, same⟩ := List.head?_eq_some_iff.mp (text ▸ first)
  exact ⟨c, tail, same, sign⟩

theorem startsValue_chars (value : Json) : StartsValue value.chars := by
  cases value with
  | null => exact ⟨'n', _, rfl, rfl, by decide, by decide⟩
  | bool truth =>
      cases truth with
      | true => exact ⟨'t', _, rfl, rfl, by decide, by decide⟩
      | false => exact ⟨'f', _, rfl, rfl, by decide, by decide⟩
  | string s => exact ⟨'"', _, rfl, rfl, by decide, by decide⟩
  | array items =>
      cases items with
      | nil => exact ⟨'[', _, rfl, rfl, by decide, by decide⟩
      | cons item rest => exact ⟨'[', _, rfl, rfl, by decide, by decide⟩
  | object fields =>
      cases fields with
      | nil => exact ⟨'\x7b', _, rfl, rfl, by decide, by decide⟩
      | cons field rest => exact ⟨'\x7b', _, rfl, rfl, by decide, by decide⟩
  | number n =>
      obtain ⟨c, tail, text, starts⟩ := exists_head_text n
      refine ⟨c, tail, text, ?_⟩
      rcases starts with digit | rfl
      · have range := Text.toNat_of_isDigit digit
        have other {d : Char} (high : d.toNat < 0x30 ∨ 0x39 < d.toNat) : c ≠ d := by
          rintro rfl
          omega
        have solid : isSpace c = false := by
          simp [isSpace, other]
        exact ⟨solid, other (by decide), other (by decide)⟩
      · exact ⟨rfl, by decide, by decide⟩

-----------------------------------------------------------------------------------------
-- What stands between values
-----------------------------------------------------------------------------------------

theorem closes_itemChars (items : List Json) (rest : List Char)
    : Closes (itemChars items ++ ']' :: rest) := by
  intro c first
  cases items with
  | nil =>
      cases first
      exact .inr (.inl rfl)
  | cons item items =>
      cases first
      exact .inl rfl

theorem closes_fieldChars (fields : List Field) (rest : List Char)
    : Closes (fieldChars fields ++ '\x7d' :: rest) := by
  intro c first
  cases fields with
  | nil =>
      cases first
      exact .inr (.inr rfl)
  | cons field fields =>
      cases first
      exact .inl rfl

theorem itemChars_cons_append (item : Json) (items : List Json) (rest : List Char)
    : itemChars (item :: items) ++ rest = ',' :: (item.chars ++ (itemChars items ++ rest)) := by
  simp [itemChars]

theorem fieldChars_cons_append (name : String) (value : Json) (fields : List Field)
    (rest : List Char)
    : fieldChars ((name, value) :: fields) ++ rest
      = ',' :: (quote name ++ ':' :: (value.chars ++ (fieldChars fields ++ rest))) := by
  simp [fieldChars]

variable {item : List Char → Option (Json × List Char)} {steps count : Nat}
  {text more rest : List Char} {value : Json}

/-- Items are read as if a comma stood in front of them. -/
theorem items?_eq_itemsAfter? (starts : StartsValue text)
    : items? item steps text = itemsAfter? item (steps + 1) (',' :: text) := by
  have comma : skipSpace (',' :: text) = ',' :: text := skipSpace_cons rfl text
  have skipped := starts.skipSpace_eq
  obtain ⟨c, tail, rfl, _, other, _⟩ := starts
  rw [items?.eq_def, skipped]
  split
  · next same =>
      cases same
      exact absurd rfl other
  · simp [itemsAfter?, comma, skipped]

/-- Behind a comma stands another item. -/
theorem itemsAfter?_cons {items : List Json} (starts : StartsValue text)
    (first : item text = some (value, more))
    (others : itemsAfter? item count more = some (items, rest))
    : itemsAfter? item (count + 1) (',' :: text) = some (value :: items, rest) := by
  have comma : skipSpace (',' :: text) = ',' :: text := skipSpace_cons rfl text
  simp [itemsAfter?, comma, starts.skipSpace_eq, first, others]

/-- A field is a name, a colon and a value. -/
theorem field_quote {name : String} (enough : (quote name ++ ':' :: text).length ≤ steps)
    (starts : StartsValue text) (read : item text = some (value, more))
    : field item steps (quote name ++ ':' :: text) = some ((name, value), more) := by
  have quotes : skipSpace (quote name ++ ':' :: text) = quote name ++ ':' :: text :=
    skipSpace_cons rfl _
  have colon : skipSpace (':' :: text) = ':' :: text := skipSpace_cons rfl text
  rw [field, quotes, quoted?_quote enough]
  simp [colon, starts.skipSpace_eq, read]

/-- Entries are read as if a comma stood in front of them. -/
theorem entries?_eq_entriesAfter? (starts : StartsValue text)
    : entries? item steps text = entriesAfter? item (steps + 1) (',' :: text) := by
  have comma : skipSpace (',' :: text) = ',' :: text := skipSpace_cons rfl text
  have skipped := starts.skipSpace_eq
  obtain ⟨c, tail, rfl, _, _, other⟩ := starts
  rw [entries?.eq_def, skipped]
  split
  · next same =>
      cases same
      exact absurd rfl other
  · simp [entriesAfter?, comma]

/-- Behind a comma stands another field. -/
theorem entriesAfter?_cons {entry : Field} {entries : List Field}
    (first : field item count text = some (entry, more))
    (others : entriesAfter? item count more = some (entries, rest))
    : entriesAfter? item (count + 1) (',' :: text) = some (entry :: entries, rest) := by
  have comma : skipSpace (',' :: text) = ',' :: text := skipSpace_cons rfl text
  simp [entriesAfter?, comma, first, others]

-----------------------------------------------------------------------------------------
-- Values
-----------------------------------------------------------------------------------------

/-- Where no bracket opens, a value is a scalar, at whatever level. -/
theorem value?_of_scalar {c : Char} {tail : List Char} (bracket : c ≠ '[') (brace : c ≠ '\x7b')
    (levels : Nat)
    : value? steps levels (c :: tail) = scalar? steps (c :: tail) := by
  cases levels with
  | zero => rfl
  | succ levels =>
      rw [value?.eq_def]
      split
      · next none => cases none
      · next same =>
          cases same
          exact absurd rfl bracket
      · next same =>
          cases same
          exact absurd rfl brace
      · rfl

/-- A number is read as a scalar. -/
theorem scalar?_text {n : Number} (back : n.ReadsBack) (closes : Closes rest)
    : scalar? steps (n.text ++ rest) = some (.number n, rest) := by
  have read := number?_text back closes
  obtain ⟨c, tail, text, starts⟩ := exists_head_text n
  rw [text, List.cons_append] at read ⊢
  have other {d : Char} (none : Text.isDigit d = false ∧ d ≠ '-') : c ≠ d := by
    rintro rfl
    rcases starts with digit | sign
    · rw [none.1] at digit
      cases digit
    · exact none.2 sign
  rw [scalar?.eq_def]
  split
  · next same => exact absurd (List.cons.inj same).1 (other (by decide))
  · next same => exact absurd (List.cons.inj same).1 (other (by decide))
  · next same => exact absurd (List.cons.inj same).1 (other (by decide))
  · next same => exact absurd (List.cons.inj same).1 (other (by decide))
  · rw [read]
    rfl

/-- A number does not start like an array or an object, so it is read as a scalar. -/
theorem value?_number {n : Number} {steps levels : Nat} {rest : List Char} (back : n.ReadsBack)
    (closes : Closes rest)
    : value? steps levels (n.text ++ rest) = some (.number n, rest) := by
  obtain ⟨c, tail, text, starts⟩ := exists_head_text n
  have bracket : c ≠ '[' := by
    rintro rfl
    revert starts
    decide
  have brace : c ≠ '\x7b' := by
    rintro rfl
    revert starts
    decide
  have read : scalar? steps (n.text ++ rest) = some (.number n, rest) := scalar?_text back closes
  rw [text] at read ⊢
  exact (value?_of_scalar bracket brace levels).trans read

theorem value?_quote {s : String} {steps levels : Nat} {rest : List Char}
    (enough : (quote s ++ rest).length ≤ steps)
    : value? steps levels (quote s ++ rest) = some (.string s, rest) := by
  refine (value?_of_scalar (by decide) (by decide) levels).trans ?_
  change (quoted? steps (quote s ++ rest)).map _ = _
  rw [quoted?_quote enough]
  rfl

mutual
/-- A value is read back from its text in front of one that it can end in front of, by induction on
the value. As many steps as characters are enough, for each item and each field is written with
some.
-/
theorem value?_chars (value : Json) {steps levels : Nat} {rest : List Char} (closes : Closes rest)
    (back : value.ReadsBack) (shallow : nesting value ≤ levels)
    (enough : (value.chars ++ rest).length ≤ steps)
    : value? steps levels (value.chars ++ rest) = some (value.canonical, rest) := by
  cases value with
  | null => exact value?_of_scalar (by decide) (by decide) levels
  | bool truth =>
      cases truth with
      | true => exact value?_of_scalar (by decide) (by decide) levels
      | false => exact value?_of_scalar (by decide) (by decide) levels
  | number n => exact value?_number back closes
  | string s => exact value?_quote enough
  | array items =>
      obtain ⟨levels, rfl⟩ : ∃ left, levels = left + 1 := Nat.exists_eq_add_one.mpr (by
        rw [nesting] at shallow
        omega)
      cases items with
      | nil =>
          have bracket : skipSpace (']' :: rest) = ']' :: rest := skipSpace_cons rfl rest
          simp [chars, value?, items?, bracket, canonical, canonicalItems]
      | cons item items =>
          have text : chars (.array (item :: items)) ++ rest
              = '[' :: (item.chars ++ (itemChars items ++ ']' :: rest)) := by
            simp [chars]
          rw [text] at enough ⊢
          rw [nesting] at shallow
          -- the comma of the first item is as long as the bracket
          have read : itemsAfter? (value? steps levels) (steps + 1)
              (itemChars (item :: items) ++ ']' :: rest)
              = some (canonicalItems (item :: items), rest) :=
            itemsAfter?_itemChars (item :: items) back (by omega)
              (by rwa [itemChars_cons_append])
              (by rw [itemChars_cons_append]; exact Nat.le_succ_of_le enough)
          rw [itemChars_cons_append] at read
          rw [value?, items?_eq_itemsAfter? ((startsValue_chars item).append _), read]
          rfl
  | object fields =>
      obtain ⟨levels, rfl⟩ : ∃ left, levels = left + 1 := Nat.exists_eq_add_one.mpr (by
        rw [nesting] at shallow
        omega)
      cases fields with
      | nil =>
          have brace : skipSpace ('\x7d' :: rest) = '\x7d' :: rest := skipSpace_cons rfl rest
          simp [chars, value?, entries?, brace, canonical, canonicalFields]
      | cons field fields =>
          obtain ⟨name, value⟩ := field
          have text : chars (.object ((name, value) :: fields)) ++ rest
              = '\x7b' :: (quote name ++ ':' ::
                (value.chars ++ (fieldChars fields ++ '\x7d' :: rest))) := by
            simp [chars]
          rw [text] at enough ⊢
          rw [nesting] at shallow
          have read : entriesAfter? (value? steps levels) (steps + 1)
              (fieldChars ((name, value) :: fields) ++ '\x7d' :: rest)
              = some (canonicalFields ((name, value) :: fields), rest) :=
            entriesAfter?_fieldChars ((name, value) :: fields) back (by omega)
              (by rwa [fieldChars_cons_append])
              (by rw [fieldChars_cons_append]; exact Nat.le_succ_of_le enough)
          rw [fieldChars_cons_append] at read
          rw [value?, entries?_eq_entriesAfter? ((startsValue_quote name).append _), read]
          rfl

theorem itemsAfter?_itemChars (items : List Json) {steps levels count : Nat} {rest : List Char}
    (back : ItemsReadBack items) (shallow : nestingOfItems items ≤ levels)
    (enough : (itemChars items ++ ']' :: rest).length ≤ steps)
    (counted : (itemChars items ++ ']' :: rest).length ≤ count)
    : itemsAfter? (value? steps levels) count (itemChars items ++ ']' :: rest)
      = some (canonicalItems items, rest) := by
  cases items with
  | nil =>
      obtain ⟨count, rfl⟩ : ∃ left, count = left + 1 := Nat.exists_eq_add_one.mpr (by
        rw [itemChars, List.nil_append, List.length_cons] at counted
        omega)
      have bracket : skipSpace (']' :: rest) = ']' :: rest := skipSpace_cons rfl rest
      simp [itemChars, itemsAfter?, bracket, canonicalItems]
  | cons item items =>
      rw [itemChars_cons_append, List.length_cons, List.length_append] at enough counted
      rw [nestingOfItems] at shallow
      obtain ⟨count, rfl⟩ : ∃ left, count = left + 1 := Nat.exists_eq_add_one.mpr (by omega)
      have first : value? steps levels (item.chars ++ (itemChars items ++ ']' :: rest))
          = some (item.canonical, itemChars items ++ ']' :: rest) :=
        value?_chars item (closes_itemChars items rest) back.1 (by omega)
          (by rw [List.length_append]; omega)
      have others : itemsAfter? (value? steps levels) count (itemChars items ++ ']' :: rest)
          = some (canonicalItems items, rest) :=
        itemsAfter?_itemChars items back.2 (by omega) (by omega) (by omega)
      rw [itemChars_cons_append]
      exact itemsAfter?_cons ((startsValue_chars item).append _) first others

theorem entriesAfter?_fieldChars (fields : List Field) {steps levels count : Nat}
    {rest : List Char} (back : FieldsReadBack fields) (shallow : nestingOfFields fields ≤ levels)
    (enough : (fieldChars fields ++ '\x7d' :: rest).length ≤ steps)
    (counted : (fieldChars fields ++ '\x7d' :: rest).length ≤ count)
    : entriesAfter? (value? steps levels) count (fieldChars fields ++ '\x7d' :: rest)
      = some (canonicalFields fields, rest) := by
  cases fields with
  | nil =>
      obtain ⟨count, rfl⟩ : ∃ left, count = left + 1 := Nat.exists_eq_add_one.mpr (by
        rw [fieldChars, List.nil_append, List.length_cons] at counted
        omega)
      have brace : skipSpace ('\x7d' :: rest) = '\x7d' :: rest := skipSpace_cons rfl rest
      simp [fieldChars, entriesAfter?, brace, canonicalFields]
  | cons field fields =>
      obtain ⟨name, value⟩ := field
      rw [fieldChars_cons_append] at enough counted
      simp only [List.length_cons, List.length_append] at enough counted
      rw [nestingOfFields] at shallow
      obtain ⟨count, rfl⟩ : ∃ left, count = left + 1 := Nat.exists_eq_add_one.mpr (by omega)
      have read : value? steps levels (value.chars ++ (fieldChars fields ++ '\x7d' :: rest))
          = some (value.canonical, fieldChars fields ++ '\x7d' :: rest) :=
        value?_chars value (closes_fieldChars fields rest) back.1 (by omega)
          (by simp only [List.length_cons, List.length_append]; omega)
      have first : Json.field (value? steps levels) count
          (quote name ++ ':' :: (value.chars ++ (fieldChars fields ++ '\x7d' :: rest)))
          = some ((name, value.canonical), fieldChars fields ++ '\x7d' :: rest) :=
        field_quote (by simp only [List.length_cons, List.length_append]; omega)
          ((startsValue_chars value).append _) read
      have others : entriesAfter? (value? steps levels) count (fieldChars fields ++ '\x7d' :: rest)
          = some (canonicalFields fields, rest) :=
        entriesAfter?_fieldChars fields back.2 (by omega)
          (by simp only [List.length_cons, List.length_append]; omega)
          (by simp only [List.length_cons, List.length_append]; omega)
      rw [fieldChars_cons_append]
      exact entriesAfter?_cons first others
end

-----------------------------------------------------------------------------------------
-- Whole texts
-----------------------------------------------------------------------------------------

/-- A value that is not nested too deeply is read back from its text if the numbers in it are. -/
theorem read?_render {value : Json} (back : value.ReadsBack)
    (shallow : nesting value ≤ defaultNesting)
    : read? value.render = some value.canonical := by
  have read : value? value.chars.length defaultNesting (value.chars ++ [])
      = some (value.canonical, []) :=
    value?_chars value closes_nil back shallow (Nat.le_of_eq (by rw [List.append_nil]))
  rw [List.append_nil] at read
  rw [read?, render, String.toList_ofList, readNested?, (startsValue_chars value).skipSpace_eq,
    read]
  rfl

/-- Entries with distinct names are the fields that they give. -/
theorem fieldsOf_of_nodup {entries : List Field} (distinct : (entries.map Prod.fst).Nodup)
    : fieldsOf entries = entries := by
  have joined (rest fields : List Field) (distinct : ((fields ++ rest).map Prod.fst).Nodup)
      : rest.foldl (fun fields entry => setField entry.1 entry.2 fields) fields
        = fields ++ rest := by
    induction rest generalizing fields with
    | nil => exact (List.append_nil _).symm
    | cons entry rest ih =>
        have new : entry.1 ∉ fields.map Prod.fst := by
          rw [List.map_append, List.nodup_append] at distinct
          exact fun member => distinct.2.2 _ member _ (by simp) rfl
        rw [List.append_cons] at distinct ⊢
        rw [List.foldl_cons, setField_of_field?_eq_none (field?_eq_none_iff.mpr new)]
        exact ih _ distinct
  exact joined entries [] distinct

mutual
/-- A value whose objects have distinct names has nothing to put together. -/
theorem canonical_of_hasDistinctKeys (value : Json) (distinct : value.HasDistinctKeys)
    : value.canonical = value := by
  cases value with
  | null => rfl
  | bool truth => rfl
  | number n => rfl
  | string s => rfl
  | array items => rw [canonical, canonicalItems_of_hasDistinctKeys items distinct]
  | object fields =>
      rw [canonical, canonicalFields_of_hasDistinctKeys fields distinct.2,
        fieldsOf_of_nodup distinct.1]

theorem canonicalItems_of_hasDistinctKeys (items : List Json)
    (distinct : ItemsHaveDistinctKeys items)
    : canonicalItems items = items := by
  cases items with
  | nil => rfl
  | cons item rest =>
      rw [canonicalItems, canonical_of_hasDistinctKeys item distinct.1,
        canonicalItems_of_hasDistinctKeys rest distinct.2]

theorem canonicalFields_of_hasDistinctKeys (fields : List Field)
    (distinct : FieldsHaveDistinctKeys fields)
    : canonicalFields fields = fields := by
  cases fields with
  | nil => rfl
  | cons field rest =>
      rw [canonicalFields, canonical_of_hasDistinctKeys field.2 distinct.1,
        canonicalFields_of_hasDistinctKeys rest distinct.2]
end

/-- A value whose objects have distinct names is read back as it was. -/
theorem read?_render_of_hasDistinctKeys {value : Json} (distinct : value.HasDistinctKeys)
    (back : value.ReadsBack) (shallow : nesting value ≤ defaultNesting)
    : read? value.render = some value := by
  rw [read?_render back shallow, canonical_of_hasDistinctKeys value distinct]

end RecordQuery.Json
