import RecordQuery.Failure
import RecordQuery.Proofs.Except
import RecordQuery.Proofs.Filter.Positions
import RecordQuery.Query.Parameters

/-! Queries in form-encoded strings. A string carries its pairs to the query as they are, and any
other string gives the query of some pairs. So no string is malformed, and none is reported to be:
what is told of an error begins with words of the reader that failed, or with the name of a call.
-/

namespace RecordQuery

-----------------------------------------------------------------------------------------
-- How it is told why a text cannot be read
-----------------------------------------------------------------------------------------

namespace Text

/-- What a text begins with, it begins with where more text follows. -/
theorem opens_append {opening first : String} (opens : opening.toList <+: first.toList)
    (rest : List Char)
    : opening.toList <+: first.toList ++ rest :=
  opens.trans (List.prefix_append _ _)

/-- A text does not begin with some words where its own opening is apart from them. -/
theorem not_prefix_of_opening {words opening text : List Char} (opens : opening <+: text)
    (apart : ¬ words <+: opening ∧ ¬ opening <+: words)
    : ¬ words <+: text := by
  intro begins
  rcases List.prefix_or_prefix_of_prefix begins opens with within | beyond
  · exact apart.1 within
  · exact apart.2 beyond

end Text

namespace ParseError

/-- The words with which it is told why a text cannot be read: words of the reader's own, or the
name of a call.
-/
def opening : ParseError → String
  | .emptyFilter | .path _ | .emptySortKey _ | .emptyPathItem _ => "empty "
  | .unexpected _ _ | .extraWord _ _ => "unexpected '"
  | .expectedChar _ _ _ | .expectedCharAtEnd _ | .expectedOperator _ _ | .expectedOperatorAt _
  | .expectedOperatorAtEnd | .expectedOperand _ _ | .expectedOperandAtEnd | .expectedDigits _ =>
    "expected "
  | .nestedTooDeeply => "expression "
  | .tooManyClauses => "filter "
  | .unterminatedString _ => "unterminated "
  | .invalidNumberAt _ | .invalidNumber _ => "invalid "
  | .unknownDirection _ _ => "unknown "
  | .starWithPaths => "'*' "
  | .malformedQueryString _ => "malformed query string: "
  | .argumentCount name _ _ => name
  | .testAsValue test | .testCompared (.stringTest test _ _) _ _ => test.name
  | .testCompared _ _ _ => ""

/-- All such words, where calls are of the functions and the tests that there are. -/
def openings : List String :=
  ["empty ", "unexpected '", "expected ", "expression ", "filter ", "unterminated ", "invalid ",
    "unknown ", "'*' "]
    ++ Function.all.map Function.name ++ StringTest.all.map StringTest.name

end ParseError

theorem Function.name_mem_openings (function : Function)
    : function.name ∈ ParseError.openings :=
  List.mem_append_left _ (List.mem_append_right _ (List.mem_map_of_mem function.mem_all))

theorem StringTest.name_mem_openings (test : StringTest) : test.name ∈ ParseError.openings := by
  cases test <;> decide

/-- The text of a test begins with its name. -/
theorem StringTest.opens_render (test : StringTest) (first second : Operand)
    : test.name.toList <+: (Filter.stringTest test first second).render.toList := by
  rw [Filter.render, String.toList_ofList, Filter.chars, Text.call, List.append_assoc]
  exact List.prefix_append _ _

namespace ParseError

/-- What is told of an error begins with its words. -/
theorem opens_message (error : ParseError) : error.opening.toList <+: error.message.toList := by
  cases error with
  | emptyFilter | nestedTooDeeply | tooManyClauses | expectedOperatorAtEnd | expectedOperandAtEnd
  | starWithPaths => decide
  | path error =>
      cases error with
      | empty => decide
      | emptyName text =>
          unfold opening message PathError.message
          simp only [String.toList_append, List.append_assoc]
          exact Text.opens_append (by decide) _
  | testCompared filter operator right =>
      unfold message
      simp only [String.toList_append, List.append_assoc]
      cases filter with
      | stringTest test first second => exact Text.opens_append (test.opens_render first second) _
      | comparison | and | or => exact List.nil_prefix
  | argumentCount | testAsValue | unexpected | extraWord | expectedChar | expectedCharAtEnd
  | expectedOperator | expectedOperatorAt | expectedOperand | expectedDigits | unterminatedString
  | invalidNumberAt | invalidNumber | unknownDirection | emptySortKey | emptyPathItem
  | malformedQueryString =>
      unfold opening message
      simp only [String.toList_append, List.append_assoc]
      exact Text.opens_append (by simp) _

/-- The words of an error that is true of some place are among those that there are. -/
theorem opening_mem_openings {s : Scanner} {error : ParseError} (isTrue : error.IsTrueAt s)
    : error.opening ∈ openings := by
  cases error with
  | argumentCount name takes given =>
      obtain ⟨function, rfl⟩ | ⟨test, rfl⟩ := isTrue
      · exact function.name_mem_openings
      · exact test.name_mem_openings
  | testCompared filter operator right =>
      obtain ⟨test, first, second, rfl⟩ := isTrue
      exact test.name_mem_openings
  | testAsValue test => exact test.name_mem_openings
  | malformedQueryString => exact isTrue.elim
  | _ => simp [opening, openings]

end ParseError

-----------------------------------------------------------------------------------------
-- What is wrong with a query
-----------------------------------------------------------------------------------------

section

variable {text : String} {item : List Char} {error : ParseError}

/-- What is wrong with an item is not about a filter text. -/
theorem SortKey.isTrueAt_of_parseItem (h : parseItem text item = .error error) (s : Scanner)
    : error.IsTrueAt s := by
  unfold parseItem at h
  dsimp only at h
  split at h
  · cases h
    trivial
  · split at h
    · cases h
    · cases h
      trivial
  · split at h
    · cases h
      trivial
    · split at h
      · cases h
        trivial
      · split at h
        · cases h
        · cases h
          trivial

theorem SortKey.isTrueAt_of_parse (h : parse text = .error error) (s : Scanner)
    : error.IsTrueAt s := by
  unfold parse at h
  split at h
  · cases h
  · obtain ⟨item, _, failed⟩ := exists_of_mapM_eq_error h
    exact isTrueAt_of_parseItem failed s

theorem PropertyPath.isTrueAt_of_parseItem (h : parseItem text item = .error error) (s : Scanner)
    : error.IsTrueAt s := by
  unfold parseItem at h
  dsimp only at h
  split at h
  · cases h
    trivial
  · split at h
    · cases h
      trivial
    · split at h
      · cases h
      · cases h
        trivial

theorem PropertyPath.isTrueAt_of_parseList (h : parseList text = .error error) (s : Scanner)
    : error.IsTrueAt s := by
  unfold parseList at h
  dsimp only at h
  split at h
  · cases h
  · obtain ⟨item, _, failed⟩ := exists_of_mapM_eq_error (eq_error_of_map h)
    exact isTrueAt_of_parseItem failed s

end

/-- What is wrong with a parameter is wrong with its value. -/
theorem Parameter.exists_of_readWith_eq_error {parameter : Parameter}
    {pairs : List FormEncoding.Pair} {absent : α} {parse : String → Except QueryError α}
    {error : QueryError} (h : parameter.readWith pairs absent parse = .error error)
    : ∃ text, parse text = .error error := by
  unfold readWith at h
  split at h
  · next text _ => exact ⟨text, h⟩
  · cases h

/-- What is wrong with a query is true of some filter text, as far as it is about one. -/
theorem Query.exists_isTrueAt {defaults : PageDefaults} {pairs : List FormEncoding.Pair}
    {error : QueryError} (h : ofPairs defaults pairs = .error error)
    : ∃ s, error.IsTrueAt s := by
  have start : Scanner := ⟨[], 0, 0⟩
  rcases eq_error_of_bind h with failed | ⟨_, _, h⟩
  · obtain ⟨text, failed⟩ := Parameter.exists_of_readWith_eq_error failed
    exact ⟨_, Filter.isTrueAt_of_parse (eq_error_of_map failed)⟩
  rcases eq_error_of_bind h with failed | ⟨_, _, h⟩
  · obtain ⟨text, failed⟩ := Parameter.exists_of_readWith_eq_error failed
    obtain ⟨cause, wrong, rfl⟩ := exists_of_mapError_eq_error failed
    exact ⟨start, SortKey.isTrueAt_of_parse wrong start⟩
  rcases eq_error_of_bind h with failed | ⟨_, _, h⟩
  · obtain ⟨text, failed⟩ := Parameter.exists_of_readWith_eq_error failed
    obtain ⟨cause, wrong, rfl⟩ := exists_of_mapError_eq_error failed
    exact ⟨start, PropertyPath.isTrueAt_of_parseList wrong start⟩
  rcases eq_error_of_bind h with failed | ⟨_, _, h⟩
  · obtain ⟨cause, failed, rfl⟩ := exists_of_mapError_eq_error failed
    exact ⟨start, trivial⟩
  · cases h

-----------------------------------------------------------------------------------------
-- Query strings
-----------------------------------------------------------------------------------------

/-- A reading fails with the report that a query string is malformed. -/
def ReportsMalformedString (outcome : Except QueryError α) : Prop :=
  ∃ error, outcome = .error error
    ∧ "Parse error: malformed query string".toList
      <+: (Failure.ofQueryError error).message.toList

/-- An error that is true of some place is no such report. -/
theorem QueryError.not_reports_of_isTrueAt {s : Scanner} {error : QueryError}
    (isTrue : error.IsTrueAt s)
    : ¬ "Parse error: malformed query string".toList
        <+: (Failure.ofQueryError error).message.toList := by
  -- the other kinds of errors have headings of their own
  cases error with
  | parse error =>
      have apart : ∀ opening ∈ ParseError.openings,
          ¬ "malformed query string".toList <+: opening.toList
            ∧ ¬ opening.toList <+: "malformed query string".toList := by
        decide
      have words : "Parse error: malformed query string".toList
          = FailureKind.parse.heading.toList ++ "malformed query string".toList := by
        decide
      rw [words, Failure.message, String.toList_append, Failure.ofQueryError,
        List.prefix_append_right_inj]
      exact Text.not_prefix_of_opening error.opens_message
        (apart _ (ParseError.opening_mem_openings isTrue))
  | unsupported error =>
      rw [Failure.message, String.toList_append]
      exact Text.not_prefix_of_opening
        (List.prefix_append FailureKind.unsupported.heading.toList _) (by decide)
  | typeMismatch error =>
      rw [Failure.message, String.toList_append]
      exact Text.not_prefix_of_opening
        (List.prefix_append FailureKind.typeMismatch.heading.toList _) (by decide)
  | paging error =>
      rw [Failure.message, String.toList_append]
      exact Text.not_prefix_of_opening
        (List.prefix_append FailureKind.paging.heading.toList _) (by decide)

/-- No encoded text is refused, so a query string gives the query of its pairs. -/
theorem Query.ofString_eq_ofPairs (defaults : PageDefaults) (text : String)
    : Query.ofString defaults text
      = Query.ofPairs defaults (FormEncoding.decode
          (if text.toList.head? = some '?' then String.ofList text.toList.tail else text)) := by
  unfold Query.ofString FormEncoding.read
  dsimp only [Except.mapError, bind, Except.bind]

/-- The encoded form of pairs gives the query of these pairs, with or without a question mark in
front. No string is reported as malformed; each gives the query of some pairs.
-/
theorem Query.ofString_carries_pairs (defaults : PageDefaults)
    : (∀ pairs, Query.ofString defaults (FormEncoding.encode pairs) = Query.ofPairs defaults pairs
        ∧ Query.ofString defaults ("?" ++ FormEncoding.encode pairs)
          = Query.ofPairs defaults pairs)
      ∧ ∀ text, ¬ ReportsMalformedString (Query.ofString defaults text)
        ∧ ∃ pairs, Query.ofString defaults text
          = Query.ofString defaults (FormEncoding.encode pairs) := by
  have carried (pairs : List FormEncoding.Pair)
      : Query.ofString defaults (FormEncoding.encode pairs) = Query.ofPairs defaults pairs := by
    rw [ofString_eq_ofPairs, if_neg (FormEncoding.head?_encode_ne pairs),
      FormEncoding.decode_encode]
  refine ⟨fun pairs => ⟨carried pairs, ?_⟩, fun text => ⟨?_, ?_⟩⟩
  · have marked : ("?" ++ FormEncoding.encode pairs).toList
        = '?' :: (FormEncoding.encode pairs).toList := by
      rw [String.toList_append]
      rfl
    rw [ofString_eq_ofPairs, marked, List.head?_cons, if_pos rfl, List.tail_cons, String.ofList_toList,
      FormEncoding.decode_encode]
  · rintro ⟨error, failed, report⟩
    rw [ofString_eq_ofPairs] at failed
    obtain ⟨s, isTrue⟩ := exists_isTrueAt failed
    exact QueryError.not_reports_of_isTrueAt isTrue report
  · exact ⟨_, (ofString_eq_ofPairs defaults text).trans (carried _).symm⟩

end RecordQuery
