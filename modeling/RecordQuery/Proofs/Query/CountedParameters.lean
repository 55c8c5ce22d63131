import Mathlib.Data.List.Induction
import RecordQuery.Query.Parameters

/-! What a query takes from the pairs it is read from: of each parameter the last value that is
given, unless it is blank, and of the parameters for paging only those of the way of paging that is
asked for. So lists of pairs that agree on these values give the same query, or fail alike.
-/

namespace RecordQuery

open FormEncoding (Pair)

namespace Parameter

variable {parameter : Parameter} {pairs others : List Pair} {pair : Pair} {value : String}

-----------------------------------------------------------------------------------------
-- Last values
-----------------------------------------------------------------------------------------

/-- The names of a parameter: its own, and the same behind a dollar sign. -/
def names (parameter : Parameter) : List String :=
  [parameter.name, "$" ++ parameter.name]

/-- The last pair that names a parameter has some value. -/
def IsLast (parameter : Parameter) (pairs : List Pair) (value : String) : Prop :=
  ∃ before name after, pairs = before ++ (name, value) :: after ∧ name ∈ parameter.names
    ∧ ∀ other ∈ after, other.1 ∉ parameter.names

/-- The last values of a parameter are the same in two lists of pairs, where a blank value counts as
none.
-/
def IsSameIn (parameter : Parameter) (pairs others : List Pair) : Prop :=
  ∀ value, Text.isAllBlank value = false
    → (parameter.IsLast pairs value ↔ parameter.IsLast others value)

theorem isNamedBy_iff : parameter.isNamedBy pair = true ↔ pair.1 ∈ parameter.names := by
  have marked : pair.1.toList = '$' :: parameter.name.toList ↔ pair.1 = "$" ++ parameter.name := by
    rw [← String.toList_inj, String.toList_append]
    rfl
  simp [isNamedBy, names, marked]

/-- One more pair gives its value to the parameter that it names, and leaves all others alone. -/
theorem value?_concat (pairs : List Pair) (pair : Pair)
    : parameter.value? (pairs ++ [pair])
      = if pair.1 ∈ parameter.names then (some pair.2).filter (fun value => !Text.isAllBlank value)
        else parameter.value? pairs := by
  unfold value?
  rw [List.filter_append]
  split
  · next named => simp [isNamedBy_iff.mpr named]
  · next other =>
      have unnamed : parameter.isNamedBy pair = false :=
        Bool.eq_false_iff.mpr (isNamedBy_iff.not.mpr other)
      simp [unnamed]

/-- The last pair of a list decides if it names the parameter, and those before it otherwise. -/
theorem isLast_concat
    : parameter.IsLast (pairs ++ [pair]) value
      ↔ pair.1 ∈ parameter.names ∧ pair.2 = value
        ∨ pair.1 ∉ parameter.names ∧ parameter.IsLast pairs value := by
  constructor
  · rintro ⟨before, name, after, same, known, unnamed⟩
    rcases List.eq_nil_or_concat after with rfl | ⟨init, last, rfl⟩
    · obtain ⟨rfl, one⟩ := List.append_inj' same rfl
      cases one
      exact .inl ⟨known, rfl⟩
    · rw [List.concat_eq_append, ← List.cons_append, ← List.append_assoc] at same
      obtain ⟨rfl, one⟩ := List.append_inj' same rfl
      cases one
      rw [List.concat_eq_append] at unnamed
      obtain ⟨earlier, latest⟩ := List.forall_mem_append.mp unnamed
      exact .inr ⟨latest pair List.mem_cons_self, before, name, init, rfl, known, earlier⟩
  · rintro (⟨known, rfl⟩ | ⟨other, before, name, after, rfl, known, unnamed⟩)
    · exact ⟨pairs, pair.1, [], rfl, known, List.forall_mem_nil _⟩
    · exact ⟨before, name, after ++ [pair], by simp, known,
        List.forall_mem_append.mpr ⟨unnamed, List.forall_mem_singleton.mpr other⟩⟩

/-- The value of a parameter is the last one, if that is not blank, by induction from the last pair.
-/
theorem value?_eq_some_iff
    : parameter.value? pairs = some value
      ↔ parameter.IsLast pairs value ∧ Text.isAllBlank value = false := by
  induction pairs using List.reverseRecOn with
  | nil => simp [value?, IsLast]
  | append_singleton pairs pair ih =>
      rw [value?_concat, isLast_concat]
      by_cases named : pair.1 ∈ parameter.names
      · rw [if_pos named, Option.filter_eq_some_iff]
        simp [named]
      · rw [if_neg named, ih]
        simp [named]

/-- The last values are the same where the values are. -/
theorem isSameIn_iff : parameter.IsSameIn pairs others
    ↔ parameter.value? pairs = parameter.value? others := by
  constructor
  · intro same
    refine Option.ext fun value => ?_
    rw [value?_eq_some_iff, value?_eq_some_iff]
    exact and_congr_left fun visible => same value visible
  · intro same value visible
    have last := congrArg (· = some value) same
    simpa [value?_eq_some_iff, visible] using last

/-- A pair that does not name a parameter can be left out. -/
theorem value?_insert {before after : List Pair} (other : pair.1 ∉ parameter.names)
    : parameter.value? (before ++ pair :: after) = parameter.value? (before ++ after) := by
  have unnamed : parameter.isNamedBy pair = false :=
    Bool.eq_false_iff.mpr (isNamedBy_iff.not.mpr other)
  unfold value?
  rw [List.filter_append, List.filter_cons_of_neg (by simp [unnamed]), ← List.filter_append]

-----------------------------------------------------------------------------------------
-- Parameters that count
-----------------------------------------------------------------------------------------

/-- The parameters of a way of paging that is asked for by name; a name of no way has none. -/
def ofPaging (type : Option String) : List Parameter :=
  match type with
  | none | some "offset" => [.skip, .top]
  | some "cursor" => [.top, .after]
  | some "paging" => [.pageNumber, .pageSize]
  | some _ => []

/-- The parameters that count in a list of pairs: those of the way of paging that it asks for, and
all that are not about one way of paging.
-/
def counted (pairs : List Pair) : List Parameter :=
  [.filter, .orderBy, .select, .pagingType]
    ++ ofPaging ((Parameter.pagingType.value? pairs).map Text.trimmed)

end Parameter

section

variable {pairs others : List Pair}

theorem Parameter.readWith_congr {parameter : Parameter} {absent : α}
    {parse : String → Except QueryError α} (same : parameter.value? pairs = parameter.value? others)
    : parameter.readWith pairs absent parse = parameter.readWith others absent parse := by
  rw [readWith, same, readWith]

theorem CountName.read_congr {name : CountName} {default : UInt64}
    (same : name.parameter.value? pairs = name.parameter.value? others)
    : name.read pairs default = name.read others default := by
  rw [read, same, read]

/-- The page that is asked for depends on the parameters of its way of paging. -/
theorem PageRequest.ofPairs_congr (defaults : PageDefaults)
    (same : ∀ parameter ∈ Parameter.counted pairs,
      parameter.value? pairs = parameter.value? others)
    : PageRequest.ofPairs defaults pairs = PageRequest.ofPairs defaults others := by
  obtain ⟨common, ofWay⟩ := List.forall_mem_append.mp same
  have type : Parameter.pagingType.value? pairs = Parameter.pagingType.value? others :=
    common _ (by decide)
  unfold PageRequest.ofPairs
  rw [← type]
  generalize (Parameter.pagingType.value? pairs).map Text.trimmed = way at ofWay ⊢
  dsimp only
  split
  case h_1 | h_2 =>
    have skip : CountName.skip.read pairs 0 = CountName.skip.read others 0 :=
      CountName.read_congr (ofWay .skip (by decide))
    have top : CountName.top.read pairs defaults.top = CountName.top.read others defaults.top :=
      CountName.read_congr (ofWay .top (by decide))
    rw [skip, top]
  case h_3 =>
    have top : CountName.top.read pairs defaults.top = CountName.top.read others defaults.top :=
      CountName.read_congr (ofWay .top (by decide))
    rw [top, ofWay .after (by decide)]
  case h_4 =>
    have number : CountName.pageNumber.read pairs 1 = CountName.pageNumber.read others 1 :=
      CountName.read_congr (ofWay .pageNumber (by decide))
    have size : CountName.pageSize.read pairs defaults.pageSize
        = CountName.pageSize.read others defaults.pageSize :=
      CountName.read_congr (ofWay .pageSize (by decide))
    rw [number, size]
  case h_5 => rfl

/-- A query depends on the last values of the parameters that count, and on whether these are blank.
A pair that names no such parameter makes no difference, whatever it says and wherever it stands.
-/
theorem Query.ofPairs_dependsOn_counted (defaults : PageDefaults) (pairs others : List Pair)
    : ((∀ parameter ∈ Parameter.counted pairs, parameter.IsSameIn pairs others)
        → Query.ofPairs defaults pairs = Query.ofPairs defaults others)
      ∧ ∀ before pair after, pairs = before ++ pair :: after
        → (∀ parameter ∈ Parameter.counted (before ++ after), pair.1 ∉ parameter.names)
        → Query.ofPairs defaults pairs = Query.ofPairs defaults (before ++ after) := by
  have agree {pairs others : List Pair}
      (same : ∀ parameter ∈ Parameter.counted pairs,
        parameter.value? pairs = parameter.value? others)
      : Query.ofPairs defaults pairs = Query.ofPairs defaults others := by
    obtain ⟨common, _⟩ := List.forall_mem_append.mp same
    unfold Query.ofPairs
    rw [Parameter.readWith_congr (common .filter (by decide)),
      Parameter.readWith_congr (common .orderBy (by decide)),
      Parameter.readWith_congr (common .select (by decide)),
      PageRequest.ofPairs_congr defaults same]
  constructor
  · intro same
    exact agree fun parameter counts => Parameter.isSameIn_iff.mp (same parameter counts)
  · rintro before pair after rfl unnamed
    refine (agree fun parameter counts => ?_).symm
    exact (Parameter.value?_insert (unnamed parameter counts)).symm

end

/-- A value that is no count and is given again, a filter that a blank one takes back, a name that
is not known, and sizes for another way of paging.
-/
theorem Query.ofPairs_dependsOn_counted_otherWay
    : let pairs :=
        [("$top", "many"), ("filter", "a eq"), ("top", "2"), ("$filter", " "), ("pagesize", "-1"),
          ("route", "x")]
      let others := [("top", "2"), ("pagesize", "0.5")]
      (∀ parameter ∈ Parameter.counted pairs, parameter.IsSameIn pairs others)
      ∧ Query.ofPairs .standard pairs = Query.ofPairs .standard others
      ∧ (∀ parameter ∈ Parameter.counted [("top", "2")], "pagesize" ∉ parameter.names)
      ∧ Query.ofPairs .standard others = Query.ofPairs .standard [("top", "2")] := by
  intro pairs others
  have values : ∀ parameter ∈ Parameter.counted pairs,
      parameter.value? pairs = parameter.value? others := by decide
  have same : ∀ parameter ∈ Parameter.counted pairs, parameter.IsSameIn pairs others :=
    fun parameter counts => Parameter.isSameIn_iff.mpr (values parameter counts)
  have unnamed : ∀ parameter ∈ Parameter.counted [("top", "2")], "pagesize" ∉ parameter.names := by
    decide
  exact ⟨same, (ofPairs_dependsOn_counted .standard pairs others).1 same, unnamed,
    (ofPairs_dependsOn_counted .standard others []).2 [("top", "2")] ("pagesize", "0.5") [] rfl
      unnamed⟩

end RecordQuery
