import RecordQuery.Proofs.Filter.CursorSafety

/-! The reader of quoted texts and the printer of string literals are inverse. From a sound cursor
the reader gives a text exactly where that text stands quoted, and stops directly behind the quote
that closes it, however many quotes are in a row.
-/

namespace RecordQuery

/-- The cursor behind some of the text that stands there. -/
def Cursor.behind (c : Cursor) (taken : List Char) : Cursor :=
  { c with position := c.position + Text.octetCount taken }

namespace Reading

-----------------------------------------------------------------------------------------
-- The reader of quoted texts
-----------------------------------------------------------------------------------------

variable {text : List Char}

/-- What is left behind so many octets is one text only. -/
theorem rest_eq_of_split {s : Scanner} (h : s.IsIn text) {before after : List Char}
    (split : text = before ++ after) (count : Text.octetCount before = s.position)
    : s.rest = after := by
  obtain ⟨front, whole, position⟩ := h.split
  exact (Text.parts_unique (whole.symm.trans split) (by rw [count, position])).2

/-- A quoted text is read behind white space, up to the quote that closes it. -/
theorem run_quotedText_eq_ok {s s' : Scanner} {t : String}
    : quotedText.run s = .ok (t, s')
      ↔ ∃ rest, Grammar.afterBlanks s.rest = Text.quoted t ++ rest ∧ rest.head? ≠ some '\''
        ∧ s.skipBlanks.advance (Text.quoted t).length = s' := by
  -- the text behind the opening quote decides, and the octets between add up
  have whole {inner rest : List Char} (t : String)
      (opens : Grammar.afterBlanks s.rest = '\'' :: inner)
      (same : inner = Scan.doubled t.toList ++ '\'' :: rest)
      : (s.skipBlanks.advance 1).advance (inner.length - rest.length)
        = s.skipBlanks.advance (Text.quoted t).length := by
    have length : 1 + (inner.length - rest.length) = (Text.quoted t).length := by
      rw [same, Scan.quoted_eq]
      simp only [List.length_append, List.length_cons, List.length_nil]
      omega
    rw [Scanner.advance_advance, length]
  constructor
  · intro h
    rw [quotedText, Scan.run_bind_of_ok (Scan.run_get s)] at h
    obtain ⟨_, m, opened, h⟩ := Scan.run_bind_eq_ok.mp h
    obtain ⟨opening, rfl⟩ := Scan.run_expect_eq_ok.mp opened
    rw [Scanner.peek?, Scanner.rest_skipBlanks] at opening
    obtain ⟨inner, start⟩ := List.head?_eq_some_iff.mp opening
    have left : (s.skipBlanks.advance 1).rest = inner := by
      rw [Scanner.rest_advance, Scanner.rest_skipBlanks, start]
      rfl
    rw [Scan.run_bind_of_ok (Scan.run_get _), left] at h
    cases found : Scan.quotedBody? inner with
    | none =>
        rw [found] at h
        cases h
    | some result =>
        obtain ⟨body, after⟩ := result
        rw [found] at h
        dsimp only at h
        rw [Scan.run_bind_of_ok (Scan.run_advance ..), Scan.run_pure] at h
        cases h
        obtain ⟨same, closes⟩ := Scan.doubled_of_quotedBody? found
        refine ⟨after, ?_, closes, (whole (String.ofList body) start ?_).symm⟩
        · rw [start, same, Scan.quoted_eq, String.toList_ofList]
          simp
        · rw [String.toList_ofList]
          exact same
  · rintro ⟨rest, start, closes, rfl⟩
    rw [Scan.quoted_eq, List.cons_append, List.append_assoc, List.singleton_append] at start
    have left : (s.skipBlanks.advance 1).rest = Scan.doubled t.toList ++ '\'' :: rest := by
      rw [Scanner.rest_advance, Scanner.rest_skipBlanks, start]
      rfl
    have opened : (Scan.expect '\'').run s = .ok ((), s.skipBlanks.advance 1) :=
      Scan.run_expect_eq_ok.mpr
        ⟨by rw [Scanner.peek?, Scanner.rest_skipBlanks, start]; rfl, rfl⟩
    rw [quotedText, Scan.run_bind_of_ok (Scan.run_get s), Scan.run_bind_of_ok opened,
      Scan.run_bind_of_ok (Scan.run_get _), left, Scan.quotedBody?_doubled t.toList closes]
    dsimp only
    rw [Scan.run_bind_of_ok (Scan.run_advance ..), Scan.run_pure, String.ofList_toList,
      whole t start rfl]

/-- The reader of quoted texts gives a text exactly where it stands quoted behind white space, and
stops directly behind the quote that closes it.
-/
theorem run_quoted_eq_ok {c c' : Cursor} (sound : c.IsSound text) {t : String}
    : (quoted text).run c = .ok (t, c')
      ↔ ∃ before blanks rest, text = before ++ (blanks ++ (Text.quoted t ++ rest))
        ∧ Text.octetCount before = c.position ∧ (∀ space ∈ blanks, Text.isBlank space = true)
        ∧ rest.head? ≠ some '\'' ∧ c.behind (blanks ++ Text.quoted t) = c' := by
  obtain ⟨s, isIn, same⟩ := exists_scanner sound
  have reading : (quoted text).run c = .ok (t, c')
      ↔ ∃ s', quotedText.run s = .ok (t, s') ∧ s'.cursor c.depth = c' := by
    rw [← same, (follows_quoted s isIn).same]
    cases quotedText.run s with
    | error error => simp [ofScan]
    | ok result =>
        obtain ⟨found, m⟩ := result
        simp [ofScan, same, Prod.ext_iff, and_assoc]
  -- the cursor behind the white space and the quoted text that stand at a place
  have moved {blanks rest : List Char} (left : s.rest = blanks ++ (Text.quoted t ++ rest))
      (blank : ∀ space ∈ blanks, Text.isBlank space = true)
      : (s.skipBlanks.advance (Text.quoted t).length).cursor c.depth
        = c.behind (blanks ++ Text.quoted t) := by
    have solid : Text.Stops Text.isBlank (Text.quoted t ++ rest) := Text.stops_cons (by decide) _
    have run : s.rest.takeWhile Text.isBlank = blanks := by
      rw [left, Text.takeWhile_append_of_stops blank solid]
    rw [Scanner.skipBlanks, run, Scanner.advance_advance, ← List.length_append, Scanner.advance,
      left, ← List.append_assoc, List.take_left, Scanner.cursor, Cursor.behind, ← same]
    rfl
  rw [reading]
  constructor
  · rintro ⟨s', read, rfl⟩
    obtain ⟨rest, start, closes, rfl⟩ := run_quotedText_eq_ok.mp read
    obtain ⟨before, split, count⟩ := isIn.split
    have left : s.rest = s.rest.takeWhile Text.isBlank ++ (Text.quoted t ++ rest) := by
      rw [← start]
      exact List.takeWhile_append_dropWhile.symm
    have blank : ∀ space ∈ s.rest.takeWhile Text.isBlank, Text.isBlank space = true :=
      fun _ => Text.of_mem_takeWhile
    exact ⟨before, _, rest, by rw [split, ← left], by rw [← count, ← same]; rfl, blank, closes,
      (moved left blank).symm⟩
  · rintro ⟨before, blanks, rest, split, count, blank, closes, rfl⟩
    have left : s.rest = blanks ++ (Text.quoted t ++ rest) :=
      rest_eq_of_split isIn split (by rw [count, ← same]; rfl)
    have solid : Text.Stops Text.isBlank (Text.quoted t ++ rest) := Text.stops_cons (by decide) _
    have start : Grammar.afterBlanks s.rest = Text.quoted t ++ rest := by
      rw [left]
      exact Text.dropWhile_append_of_stops blank solid
    exact ⟨_, run_quotedText_eq_ok.mpr ⟨rest, start, closes, rfl⟩, moved left blank⟩

/-- No white space stands where a quote does. -/
theorem eq_nil_of_standsAt_quote {before blanks more : List Char} {position : Nat}
    (split : text = before ++ (blanks ++ more)) (count : Text.octetCount before = position)
    (blank : ∀ space ∈ blanks, Text.isBlank space = true)
    (quote : Text.StandsAt text position ['\''])
    : blanks = [] := by
  obtain ⟨front, after, whole, same⟩ := quote
  have start := (Text.parts_unique (whole.symm.trans split) (by rw [same, count])).2
  cases blanks with
  | nil => rfl
  | cons c blanks =>
      obtain ⟨rfl, _⟩ := List.cons.inj start
      exact absurd (blank '\'' (List.mem_cons_self ..)) (by decide)

end Reading

end RecordQuery
