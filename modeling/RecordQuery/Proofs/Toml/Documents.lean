import RecordQuery.Proofs.Toml.Lines

/-! Documents that are written are read back: tables of texts and whole numbers, each under a bare
name of its own and with bare names of their own for its fields. Blank lines behind them change
nothing.
-/

namespace RecordQuery.Toml

variable {table : Section} {tables : List Section} {root before inner : List Entry}
  {here : List String} {name : String}

-----------------------------------------------------------------------------------------
-- Statements in turn
-----------------------------------------------------------------------------------------

/-- A table without an entry of some name. -/
def IsFree (name : String) (entries : List Entry) : Prop :=
  name ∉ entries.map Prod.fst

theorem IsFree.lookup {entries : List Entry} (free : IsFree name entries)
    : entries.lookup name = none := by
  rw [List.lookup_eq_none_iff]
  intro entry member
  rw [bne_iff_ne]
  rintro rfl
  exact free (List.mem_map_of_mem member)

/-- Of entries with distinct names those in front of one have other names. -/
theorem isFree_of_nodup {entry : Entry} {entries more : List Entry}
    (distinct : ((entries ++ entry :: more).map Prod.fst).Nodup)
    : IsFree entry.1 entries := by
  rw [List.map_append, List.map_cons, List.nodup_append] at distinct
  exact fun member => distinct.2.2 _ member _ List.mem_cons_self rfl

theorem lookup_append_singleton (free : IsFree name before) (value : Value)
    : (before ++ [(name, value)]).lookup name = some value := by
  rw [List.lookup_append, free.lookup]
  simp

theorem put_append_singleton (free : IsFree name before) (old value : Value)
    : put name value (before ++ [(name, old)]) = before ++ [(name, value)] := by
  induction before with
  | nil => simp [put]
  | cons entry before ih =>
      rw [IsFree, List.map_cons, List.mem_cons, not_or] at free
      rw [List.cons_append, put, if_neg (Ne.symm free.1), ih free.2, List.cons_append]

/-- A header begins an empty table at the end. -/
theorem add?_table (free : IsFree name root)
    : Draft.add? ⟨root, here⟩ (.table ⟨[], name⟩)
      = some ⟨root ++ [(name, .table .header [])], [name]⟩ := by
  simp [Draft.add?, beginTable?, Route.change?, free.lookup, Key.names]

/-- An entry is added at the end of the table that was begun last. -/
theorem add?_entry {field : String} (free : IsFree name before) (fresh : IsFree field inner)
    (value : Value)
    : Draft.add? ⟨before ++ [(name, .table .header inner)], [name]⟩ (.entry ⟨[], field⟩ value)
      = some ⟨before ++ [(name, .table .header (inner ++ [(field, value)]))], [name]⟩ := by
  have added : addEntry? ⟨[], field⟩ value inner = some (inner ++ [(field, value)]) := by
    unfold addEntry?
    simp [Route.change?, fresh.lookup]
  simp [Draft.add?, Route.change?, lookup_append_singleton free, Route.header, added,
    put_append_singleton free]

/-- The entries that are written of a table. -/
def Section.entries (table : Section) : List Entry :=
  table.fields.map fun field => (field.1, field.2.value)

/-- The table that is written of a document. -/
def Section.entry (table : Section) : Entry :=
  (table.name, .table .header table.entries)

/-- The statements that are written of a table. -/
def Section.statements (table : Section) : List Statement :=
  .table ⟨[], table.name⟩ :: table.entries.map fun entry => .entry ⟨[], entry.1⟩ entry.2

/-- Entries with distinct names are added one after the other. -/
theorem foldlM_add?_entries {entries : List Entry} (free : IsFree name before)
    (distinct : ((inner ++ entries).map Prod.fst).Nodup)
    : (entries.map fun entry => Statement.entry ⟨[], entry.1⟩ entry.2).foldlM Draft.add?
        ⟨before ++ [(name, .table .header inner)], [name]⟩
      = some ⟨before ++ [(name, .table .header (inner ++ entries))], [name]⟩ := by
  induction entries generalizing inner with
  | nil => simp
  | cons entry entries ih =>
      rw [List.map_cons, List.foldlM_cons, add?_entry free (isFree_of_nodup distinct)]
      have others : (((inner ++ [entry]) ++ entries).map Prod.fst).Nodup := by
        simpa using distinct
      simpa using ih others

theorem foldlM_add?_statements (here : List String) (free : IsFree table.name root)
    (distinct : (table.fields.map Prod.fst).Nodup)
    : table.statements.foldlM Draft.add? ⟨root, here⟩
      = some ⟨root ++ [table.entry], [table.name]⟩ := by
  have names : (([] ++ table.entries).map Prod.fst).Nodup := by
    simpa [Section.entries, Function.comp_def] using distinct
  rw [Section.statements, List.foldlM_cons, add?_table free]
  exact foldlM_add?_entries free names

/-- Tables with distinct names are put together one after the other. -/
theorem foldlM_add?_sections (here : List String)
    (distinct : ((root ++ tables.map Section.entry).map Prod.fst).Nodup)
    (fields : ∀ table ∈ tables, (table.fields.map Prod.fst).Nodup)
    : ∃ last, (tables.flatMap Section.statements).foldlM Draft.add? ⟨root, here⟩
        = some ⟨root ++ tables.map Section.entry, last⟩ := by
  induction tables generalizing root here with
  | nil => exact ⟨here, by simp⟩
  | cons table tables ih =>
      rw [List.forall_mem_cons] at fields
      have added := foldlM_add?_statements here (isFree_of_nodup distinct) fields.1
      have others : (((root ++ [table.entry]) ++ tables.map Section.entry).map Prod.fst).Nodup := by
        simpa using distinct
      obtain ⟨last, rest⟩ := ih [table.name] others fields.2
      refine ⟨last, ?_⟩
      rw [List.flatMap_cons, List.foldlM_append, added]
      simpa using rest

-----------------------------------------------------------------------------------------
-- Texts of documents
-----------------------------------------------------------------------------------------

/-- Tables whose names, and whose fields' names, are bare and distinct. -/
structure IsPlain (tables : List Section) : Prop where
  names : ∀ table ∈ tables, IsBareName table.name
  distinct : (tables.map Section.name).Nodup
  fields : ∀ table ∈ tables, ∀ field ∈ table.fields, IsBareName field.1
  distinctFields : ∀ table ∈ tables, (table.fields.map Prod.fst).Nodup

/-- The lines of a table, with the statements in them. -/
def Section.lines (table : Section) : List (List Char × Option Statement) :=
  ('[' :: table.name.toList ++ [']', '\n'], some (.table ⟨[], table.name⟩))
    :: table.fields.map fun field =>
      (fieldLine field, some (.entry ⟨[], field.1⟩ field.2.value))

/-- The lines of some tables, with an empty line between them and some behind. -/
def linesOf (blanks : Nat) : List Section → List (List Char × Option Statement)
  | [] => List.replicate blanks (['\n'], none)
  | [table] => table.lines ++ List.replicate blanks (['\n'], none)
  | table :: other :: rest => table.lines ++ (['\n'], none) :: linesOf blanks (other :: rest)

theorem Section.flatMap_fst_lines (table : Section)
    : table.lines.flatMap Prod.fst = table.chars := by
  simp [lines, chars, List.flatMap_cons, List.flatMap_map]

theorem Section.flatMap_snd_lines (table : Section)
    : table.lines.flatMap (fun line => line.2.toList) = table.statements := by
  rw [lines, statements, entries, List.flatMap_cons, List.flatMap_map, List.map_map]
  exact congrArg (_ :: ·) List.map_eq_flatMap.symm

/-- The lines are those of the text. -/
theorem flatMap_fst_linesOf (blanks : Nat) (tables : List Section)
    : (linesOf blanks tables).flatMap Prod.fst
      = ['\n'].intercalate (tables.map Section.chars) ++ List.replicate blanks '\n' := by
  have behind : (List.replicate blanks (['\n'], (none : Option Statement))).flatMap Prod.fst
      = List.replicate blanks '\n' := by
    induction blanks with
    | zero => rfl
    | succ blanks ih => rw [List.replicate_succ, List.flatMap_cons, ih, List.replicate_succ]; rfl
  fun_induction linesOf blanks tables with
  | case1 => exact behind
  | case2 table => simp [List.flatMap_append, Section.flatMap_fst_lines, behind]
  | case3 table other rest ih =>
      rw [List.flatMap_append, List.flatMap_cons, ih, Section.flatMap_fst_lines]
      simp [List.intercalate_cons_cons]

/-- The statements in the lines are those that are written of the tables. -/
theorem flatMap_snd_linesOf (blanks : Nat) (tables : List Section)
    : (linesOf blanks tables).flatMap (fun line => line.2.toList)
      = tables.flatMap Section.statements := by
  have behind : (List.replicate blanks (['\n'], (none : Option Statement))).flatMap
      (fun line => line.2.toList) = [] := by
    rw [List.flatMap_eq_nil_iff]
    intro line member
    rw [List.eq_of_mem_replicate member]
    rfl
  fun_induction linesOf blanks tables with
  | case1 => exact behind
  | case2 table => simp [List.flatMap_append, Section.flatMap_snd_lines, behind]
  | case3 table other rest ih =>
      rw [List.flatMap_append, List.flatMap_cons, ih, Section.flatMap_snd_lines]
      simp

theorem mem_linesOf {blanks : Nat} {line : List Char × Option Statement}
    (member : line ∈ linesOf blanks tables)
    : line = (['\n'], none) ∨ ∃ table ∈ tables, line ∈ table.lines := by
  fun_induction linesOf blanks tables with
  | case1 => exact .inl (List.eq_of_mem_replicate member)
  | case2 table =>
      rcases List.mem_append.mp member with member | member
      · exact .inr ⟨table, List.mem_cons_self, member⟩
      · exact .inl (List.eq_of_mem_replicate member)
  | case3 table other rest ih =>
      rcases List.mem_append.mp member with member | member
      · exact .inr ⟨table, List.mem_cons_self, member⟩
      rcases List.mem_cons.mp member with blank | member
      · exact .inl blank
      · exact (ih member).imp_right fun ⟨table', inside, member⟩ =>
          ⟨table', List.mem_cons_of_mem table inside, member⟩

/-- Each line that is written is taken. -/
theorem takesLine_of_mem_linesOf {size blanks : Nat} {line : List Char × Option Statement}
    (plain : IsPlain tables)
    (writable : ∀ table ∈ tables, ∀ field ∈ table.fields, field.2.isWritable = true)
    (member : line ∈ linesOf blanks tables) (enough : line.1.length ≤ size)
    : TakesLine size line.1 line.2 := by
  rcases mem_linesOf member with rfl | ⟨table, within, member⟩
  · exact takesLine_blank size
  rcases List.mem_cons.mp member with rfl | member
  · have start : ∃ c tail, '[' :: table.name.toList ++ [']', '\n'] = c :: tail
        ∧ isText c = true ∧ isSpace c = false ∧ c ≠ '#' := ⟨'[', _, rfl, rfl, rfl, by decide⟩
    have some : size ≠ 0 := by
      simp only [List.cons_append, List.length_cons] at enough
      omega
    exact takesLine_statement start fun rest => statement?_header (plain.names table within) some
  · obtain ⟨field, inside, rfl⟩ := List.mem_map.mp member
    have bare := plain.fields table within field inside
    have start : ∃ c tail, fieldLine field = c :: tail
        ∧ isText c = true ∧ isSpace c = false ∧ c ≠ '#' := by
      obtain ⟨c, tail, row, bareChar⟩ := bare.exists_cons
      refine ⟨c, _, by rw [fieldLine, row]; rfl, isText_of_isBare bareChar,
        isSpace_of_isBare bareChar, ne_of_isBare bareChar (by decide)⟩
    exact takesLine_statement start fun rest =>
      statement?_fieldLine bare (writable table within field inside) enough

theorem statements?_linesOf (plain : IsPlain tables)
    (writable : ∀ table ∈ tables, ∀ field ∈ table.fields, field.2.isWritable = true)
    (blanks : Nat)
    : let chars := ['\n'].intercalate (tables.map Section.chars) ++ List.replicate blanks '\n'
      statements? chars.length chars.length chars = some (tables.flatMap Section.statements) := by
  intro chars
  have spelled : (linesOf blanks tables).flatMap Prod.fst = chars :=
    flatMap_fst_linesOf blanks tables
  have within : ∀ line ∈ linesOf blanks tables, line.1.length ≤ chars.length := by
    intro line member
    obtain ⟨front, behind, split⟩ := List.append_of_mem member
    rw [← spelled, split, List.flatMap_append, List.flatMap_cons]
    simp only [List.length_append]
    omega
  have lines : ∀ line ∈ linesOf blanks tables, TakesLine chars.length line.1 line.2 :=
    fun line member => takesLine_of_mem_linesOf plain writable member (within line member)
  have taken := statements?_flatMap lines (Nat.le_of_eq (congrArg List.length spelled))
  rwa [spelled, flatMap_snd_linesOf] at taken

/-- What is written does not start with a mark of its encoding. -/
theorem head?_linesOf (blanks : Nat) (tables : List Section)
    : ((linesOf blanks tables).flatMap Prod.fst).head? ≠ some byteOrderMark := by
  fun_cases linesOf blanks tables with
  | case1 => cases blanks <;> simp [List.replicate_succ, byteOrderMark]
  | case2 table => simp [Section.lines, byteOrderMark]
  | case3 table other rest => simp [Section.lines, byteOrderMark]

theorem tableOf?_statements (plain : IsPlain tables)
    : tableOf? (tables.flatMap Section.statements) = some (tables.map Section.entry) := by
  have distinct : (([] ++ tables.map Section.entry).map Prod.fst).Nodup := by
    simpa [Function.comp_def, Section.entry] using plain.distinct
  obtain ⟨last, together⟩ := foldlM_add?_sections [] distinct plain.distinctFields
  rw [tableOf?, Draft.empty, together]
  rfl

/-- A document that is written is read back as its tables, with empty lines behind it or without. -/
theorem read?_of_write? {text : String} (plain : IsPlain tables)
    (written : write? tables = some text) (blanks : Nat)
    : read? (text ++ String.ofList (List.replicate blanks '\n'))
      = some (tables.map Section.entry) := by
  unfold write? at written
  split at written
  · next writable =>
      cases written
      simp only [List.all_eq_true] at writable
      have statements := statements?_linesOf plain writable blanks
      have noMark := head?_linesOf blanks tables
      rw [flatMap_fst_linesOf] at noMark
      unfold read?
      rw [String.toList_append, String.toList_ofList, String.toList_ofList]
      dsimp only
      rw [if_neg noMark, statements]
      exact tableOf?_statements plain
  · cases written

end RecordQuery.Toml
