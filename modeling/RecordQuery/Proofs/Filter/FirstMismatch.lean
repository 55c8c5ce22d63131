import Mathlib.Data.List.Forall2
import RecordQuery.Proofs.Filter.Keeping
import RecordQuery.Proofs.Filter.Mismatches
import RecordQuery.Proofs.FirstFailure

/-! Which failure a filter reports. The calls in an operand are made in order: all calls in the
arguments of a call, one argument after the other, and only then the call itself looks at what it is
given. A filter makes the calls of its right side where its left side leaves the verdict open. The
first call that fails decides, in it the leftmost argument that is not what the call expects, and of
a list of records the first one on which a call fails.
-/

namespace RecordQuery

/-- What a function expects of each of its arguments, in the order in which it looks. -/
def Function.expects : Function → List Expected
  | .unary .year | .unary .month | .unary .day | .unary .hour | .unary .minute | .unary .second =>
    [.stringsOrNumbers, .validDates]
  | .unary .round | .unary .floor | .unary .ceiling => [.numbers]
  | .unary .toLower | .unary .toUpper | .unary .trim | .unary .length | .binary _ | .ternary _ =>
    [.strings]

/-- A call, and what it expects of each of its arguments. -/
structure CheckedCall extends Call where
  expects : List Expected

def CheckedCall.ofFunction (function : Function) (operands : List Operand) : CheckedCall :=
  ⟨.ofFunction function operands, function.expects⟩

def CheckedCall.ofTest (test : StringTest) (operands : List Operand) : CheckedCall :=
  ⟨.ofTest test operands, [.strings]⟩

/-- The calls in an operand, at any depth, in the order in which they are made. -/
def Operand.callsInOrder : Operand → List CheckedCall
  | .property _ | .literal _ => []
  | .unary function a => a.callsInOrder ++ [.ofFunction (.unary function) [a]]
  | .binary function a b =>
    a.callsInOrder ++ (b.callsInOrder ++ [.ofFunction (.binary function) [a, b]])
  | .ternary function a b c =>
    a.callsInOrder ++ (b.callsInOrder
      ++ (c.callsInOrder ++ [.ofFunction (.ternary function) [a, b, c]]))

/-- The calls that a filter has for a record, in the order in which they are made if none fails. The
calls of a right side are left out where the left side decides.
-/
def Filter.callsOn (record : Json) : Filter → List CheckedCall
  | .comparison _ left right => left.callsInOrder ++ right.callsInOrder
  | .stringTest test first second =>
    first.callsInOrder ++ (second.callsInOrder ++ [.ofTest test [first, second]])
  | .and left right =>
    left.callsOn record ++ match left.accepts record with
      | .ok true => right.callsOn record
      | _ => []
  | .or left right =>
    left.callsOn record ++ match left.accepts record with
      | .ok false => right.callsOn record
      | _ => []

/-- A call of a name refuses an argument: what it says is the first of its expectations that the
argument does not meet.
-/
def Argument.IsRefusedFor (name : String) (expects : List Expected) (argument : Argument)
    (mismatch : TypeMismatch) : Prop :=
  ∃ expected, expects.find? (fun expected => !expected.isMetBy argument.value) = some expected
    ∧ mismatch = ⟨name, expected, argument⟩

/-- An argument is an operand with the value that it has on a record. -/
def Argument.IsGiven (record : Json) (operand : Operand) (argument : Argument) : Prop :=
  argument.operand = operand ∧ operand.eval record = .ok argument.value

/-- A call fails by itself on a record: all its operands have values there, and it fails with the
leftmost argument that it refuses.
-/
def CheckedCall.FailsWith (call : CheckedCall) (record : Json) (mismatch : TypeMismatch) : Prop :=
  ∃ arguments, List.Forall₂ (Argument.IsGiven record) call.operands arguments
    ∧ FirstFails (Argument.IsRefusedFor call.name call.expects) arguments mismatch

variable {record : Json} {mismatch : TypeMismatch}

-----------------------------------------------------------------------------------------
-- Looking at arguments
-----------------------------------------------------------------------------------------

namespace Argument

variable {name : String} {expects : List Expected} {argument : Argument}

theorem isRefusedFor_unique (argument : Argument) (mismatch other : TypeMismatch)
    (refused : argument.IsRefusedFor name expects mismatch)
    (again : argument.IsRefusedFor name expects other)
    : mismatch = other := by
  obtain ⟨expected, found, rfl⟩ := refused
  obtain ⟨expected', found', rfl⟩ := again
  rw [Option.some.inj (found.symm.trans found')]

theorem isGiven_rightUnique : Relator.RightUnique (IsGiven record) := by
  rintro operand ⟨_, value⟩ ⟨_, value'⟩ ⟨rfl, evaluated⟩ ⟨rfl, evaluated'⟩
  cases evaluated.symm.trans evaluated'
  rfl

theorem string_eq_error_iff
    : argument.string name = .error mismatch ↔ argument.IsRefusedFor name [.strings] mismatch := by
  obtain ⟨operand, value⟩ := argument
  rcases value with _ | _ | _ | _ | _ | _ | _
    <;> simp [string, IsRefusedFor, Expected.isMetBy, eq_comm]

theorem number_eq_error_iff
    : argument.number name = .error mismatch ↔ argument.IsRefusedFor name [.numbers] mismatch := by
  obtain ⟨operand, value⟩ := argument
  rcases value with _ | _ | _ | _ | _ | _ | _
    <;> simp [number, IsRefusedFor, Expected.isMetBy, eq_comm]

theorem moment_eq_error_iff
    : argument.moment name = .error mismatch
      ↔ argument.IsRefusedFor name [.stringsOrNumbers, .validDates] mismatch := by
  obtain ⟨operand, value⟩ := argument
  rcases value with _ | _ | _ | n | s | _ | _
  case some.string =>
    cases found : Calendar.Moment.read? s
      <;> simp [moment, IsRefusedFor, Expected.isMetBy, found, eq_comm]
  case some.number =>
    cases found : momentOfNumber? n
      <;> simp [moment, IsRefusedFor, Expected.isMetBy, found, eq_comm]
  all_goals simp [moment, IsRefusedFor, Expected.isMetBy, eq_comm]

theorem takesInTurn_string (name : String) (argument : Argument)
    : TakesInTurn (IsRefusedFor name [.strings]) [argument] (argument.string name) :=
  .singleton fun _ => string_eq_error_iff

end Argument

-----------------------------------------------------------------------------------------
-- Single calls
-----------------------------------------------------------------------------------------

theorem UnaryFunction.takesInTurn_apply (function : UnaryFunction) (argument : Argument)
    : TakesInTurn
        (Argument.IsRefusedFor (Function.unary function).name (Function.unary function).expects)
        [argument] (function.apply argument) := by
  cases function
  case toLower | toUpper | trim | length =>
    exact .map (Argument.takesInTurn_string _ argument) _
  case year | month | day | hour | minute | second =>
    exact .map (.singleton fun _ => Argument.moment_eq_error_iff) _
  case round | floor | ceiling =>
    exact .map (.singleton fun _ => Argument.number_eq_error_iff) _

theorem BinaryFunction.takesInTurn_apply (function : BinaryFunction) (first second : Argument)
    : TakesInTurn
        (Argument.IsRefusedFor (Function.binary function).name (Function.binary function).expects)
        [first, second] (function.apply first second) := by
  refine .bind (Argument.takesInTurn_string _ first) fun s _ => ?_
  refine .bind (Argument.takesInTurn_string _ second) fun t _ => ?_
  cases function <;> exact .ok _

theorem TernaryFunction.takesInTurn_apply (function : TernaryFunction)
    (first second third : Argument)
    : TakesInTurn
        (Argument.IsRefusedFor (Function.ternary function).name (Function.ternary function).expects)
        [first, second, third] (function.apply first second third) := by
  refine .bind (Argument.takesInTurn_string _ first) fun s _ => ?_
  refine .bind (Argument.takesInTurn_string _ second) fun needle _ => ?_
  refine .bind (Argument.takesInTurn_string _ third) fun insert _ => ?_
  cases function
  exact .ok _

namespace CheckedCall

variable {call : CheckedCall}

theorem failsWith_unique (call : CheckedCall) (mismatch other : TypeMismatch)
    (failed : call.FailsWith record mismatch) (again : call.FailsWith record other)
    : mismatch = other := by
  obtain ⟨arguments, given, first⟩ := failed
  obtain ⟨arguments', given', first'⟩ := again
  rw [Argument.isGiven_rightUnique.forall₂ given' given] at first'
  exact FirstFails.unique Argument.isRefusedFor_unique first first'

/-- What takes the arguments of a call in turn takes the call. -/
theorem takesInTurn_of_arguments {arguments : List Argument} {computed : Except TypeMismatch α}
    (given : List.Forall₂ (Argument.IsGiven record) call.operands arguments)
    (inTurn : TakesInTurn (Argument.IsRefusedFor call.name call.expects) arguments computed)
    : TakesInTurn (fun call => call.FailsWith record) [call] computed := by
  refine .singleton fun mismatch => ?_
  rw [inTurn.eq_error_iff Argument.isRefusedFor_unique]
  refine ⟨fun first => ⟨arguments, given, first⟩, fun ⟨arguments', given', first⟩ => ?_⟩
  rwa [Argument.isGiven_rightUnique.forall₂ given given']

end CheckedCall

-----------------------------------------------------------------------------------------
-- Operands, filters and lists of records
-----------------------------------------------------------------------------------------

/-- An operand makes its calls in order, by induction on the operand. -/
theorem Operand.takesInTurn_eval (record : Json) (operand : Operand)
    : TakesInTurn (fun call => call.FailsWith record) operand.callsInOrder
        (operand.eval record) := by
  induction operand with
  | property path => exact .ok _
  | literal value => exact .ok _
  | unary function a inA =>
      refine .bind inA fun x evalA => .map ?_ some
      refine CheckedCall.takesInTurn_of_arguments ?_ (function.takesInTurn_apply ⟨a, x⟩)
      exact .cons ⟨rfl, evalA⟩ .nil
  | binary function a b inA inB =>
      refine .bind inA fun x evalA => .bind inB fun y evalB => .map ?_ some
      refine CheckedCall.takesInTurn_of_arguments ?_ (function.takesInTurn_apply ⟨a, x⟩ ⟨b, y⟩)
      exact .cons ⟨rfl, evalA⟩ (.cons ⟨rfl, evalB⟩ .nil)
  | ternary function a b c inA inB inC =>
      refine .bind inA fun x evalA => .bind inB fun y evalB => .bind inC fun z evalC =>
        .map ?_ some
      refine CheckedCall.takesInTurn_of_arguments ?_
        (function.takesInTurn_apply ⟨a, x⟩ ⟨b, y⟩ ⟨c, z⟩)
      exact .cons ⟨rfl, evalA⟩ (.cons ⟨rfl, evalB⟩ (.cons ⟨rfl, evalC⟩ .nil))

namespace Filter

/-- A filter makes its calls in order, by induction on the filter. -/
theorem takesInTurn_accepts (record : Json) (filter : Filter)
    : TakesInTurn (fun call => call.FailsWith record) (filter.callsOn record)
        (filter.accepts record) := by
  induction filter with
  | comparison operator left right =>
      exact .bind (left.takesInTurn_eval record) fun x _ =>
        .map (right.takesInTurn_eval record) _
  | stringTest test first second =>
      refine .bind (first.takesInTurn_eval record) fun x evalFirst =>
        .bind (second.takesInTurn_eval record) fun y evalSecond => ?_
      have given : List.Forall₂ (Argument.IsGiven record) [first, second]
          [⟨first, x⟩, ⟨second, y⟩] := .cons ⟨rfl, evalFirst⟩ (.cons ⟨rfl, evalSecond⟩ .nil)
      refine CheckedCall.takesInTurn_of_arguments given ?_
      exact .bind (Argument.takesInTurn_string _ _) fun s _ =>
        .bind (Argument.takesInTurn_string _ _) fun t _ => .ok _
  | and left right inLeft inRight =>
      refine .bind inLeft fun verdict decided => ?_
      rw [decided]
      cases verdict with
      | true => exact inRight
      | false => exact .ok false
  | or left right inLeft inRight =>
      refine .bind inLeft fun verdict decided => ?_
      rw [decided]
      cases verdict with
      | true => exact .ok true
      | false => exact inRight

/-- Filtering takes the records in turn, by induction on them. -/
theorem takesInTurn_keep (filter : Filter) (records : List Json)
    : TakesInTurn (fun record mismatch => filter.accepts record = .error mismatch) records
        (filter.keep records) := by
  induction records with
  | nil => exact .ok []
  | cons record rest inRest =>
      have first : TakesInTurn (fun record mismatch => filter.accepts record = .error mismatch)
          [record] (filter.accepts record) := .singleton fun _ => .rfl
      exact .bind first fun accepted _ => .map inRest _

/-- Filtering fails with what the first record makes the filter fail with that makes it fail. -/
theorem keep_eq_error_iff {filter : Filter} {records : List Json}
    : filter.keep records = .error mismatch
      ↔ FirstFails (fun record mismatch => filter.accepts record = .error mismatch) records
          mismatch := by
  refine (takesInTurn_keep filter records).eq_error_iff fun record mismatch other failed again => ?_
  exact Except.error.inj (failed.symm.trans again)

/-- A filter fails on a record with what the first call fails with that fails. -/
theorem accepts_eq_error_iff {filter : Filter}
    : filter.accepts record = .error mismatch
      ↔ FirstFails (fun call => call.FailsWith record) (filter.callsOn record) mismatch :=
  (takesInTurn_accepts record filter).eq_error_iff CheckedCall.failsWith_unique

/-- Which failure filtering reports. It fails where the filter fails on some record, and then with
what the first such record makes the filter fail with. On a record a filter fails with what the
first call fails with that fails, in the order in which the calls are made; a call has its turn
behind all calls in its arguments, and reports the leftmost argument that it refuses.
-/
theorem keepIf_accepts_firstFails (filter : Filter) (records : List Json)
    : ((∃ error, keepIf (some filter) records = .error error)
        ↔ ∃ record ∈ records, ∃ mismatch, filter.accepts record = .error mismatch)
      ∧ (∀ error, keepIf (some filter) records = .error error
        ↔ ∃ mismatch, error = .typeMismatch mismatch
          ∧ FirstFails (fun record mismatch => filter.accepts record = .error mismatch) records
            mismatch)
      ∧ ∀ record mismatch, filter.accepts record = .error mismatch
        ↔ FirstFails (fun call => call.FailsWith record) (filter.callsOn record) mismatch := by
  have told (error : QueryError)
      : keepIf (some filter) records = .error error
        ↔ ∃ mismatch, error = .typeMismatch mismatch ∧ filter.keep records = .error mismatch := by
    simp [keepIf_eq_error_iff]
  refine ⟨?_, ?_, fun record mismatch => accepts_eq_error_iff⟩
  · rw [← (takesInTurn_keep filter records).exists_error_iff]
    constructor
    · rintro ⟨error, failed⟩
      obtain ⟨mismatch, -, failed⟩ := (told error).mp failed
      exact ⟨mismatch, failed⟩
    · rintro ⟨mismatch, failed⟩
      exact ⟨.typeMismatch mismatch, (told _).mpr ⟨mismatch, rfl, failed⟩⟩
  · intro error
    simp only [told, keep_eq_error_iff]

/-- Both arguments of `concat` are made before it looks at the first one, which is no string. -/
example
    : keepIf
        (some (.comparison .eq
          (.binary .concat (.property ⟨"n", rfl, by decide⟩)
            (.unary .toLower (.literal (.bool true))))
          (.literal (.string "a"))))
        [.object [("n", .null)]]
      = .error (.typeMismatch
          ⟨"tolower", .strings, ⟨.literal (.bool true), some (.bool true)⟩⟩) := by
  rfl

end Filter

-----------------------------------------------------------------------------------------
-- The call of a failure
-----------------------------------------------------------------------------------------

/-- A call that fails by itself is the one that the failure tells of. -/
theorem CheckedCall.FailsWith.isOf {call : CheckedCall} (failed : call.FailsWith record mismatch)
    : mismatch.IsOf call.toCall record := by
  obtain ⟨arguments, given, first⟩ := failed
  obtain ⟨argument, member, expected, found, rfl⟩ := first.exists_mem
  obtain ⟨index, bound, rfl⟩ := List.getElem_of_mem member
  obtain ⟨length, each⟩ := List.forall₂_iff_get.mp given
  obtain ⟨placed, evaluated⟩ := each index (length ▸ bound) bound
  constructor
  case name => rfl
  case argument => exact ⟨index, placed ▸ List.getElem?_eq_getElem (length ▸ bound)⟩
  case value => exact placed ▸ evaluated
  case refused => simpa using List.find?_some found

theorem Operand.mem_calls_of_mem_callsInOrder {operand : Operand} {call : CheckedCall}
    (made : call ∈ operand.callsInOrder)
    : call.toCall ∈ operand.calls := by
  induction operand with
  | property path => cases made
  | literal value => cases made
  | unary function a inA =>
      simp only [callsInOrder, List.mem_append, List.mem_singleton] at made
      rcases made with inner | rfl
      · simp [calls, inA inner]
      · simp [calls, CheckedCall.ofFunction]
  | binary function a b inA inB =>
      simp only [callsInOrder, List.mem_append, List.mem_singleton] at made
      rcases made with inner | inner | rfl
      · simp [calls, inA inner]
      · simp [calls, inB inner]
      · simp [calls, CheckedCall.ofFunction]
  | ternary function a b c inA inB inC =>
      simp only [callsInOrder, List.mem_append, List.mem_singleton] at made
      rcases made with inner | inner | inner | rfl
      · simp [calls, inA inner]
      · simp [calls, inB inner]
      · simp [calls, inC inner]
      · simp [calls, CheckedCall.ofFunction]

theorem Filter.mem_calls_of_mem_callsOn {filter : Filter} {call : CheckedCall}
    (made : call ∈ filter.callsOn record)
    : call.toCall ∈ filter.calls := by
  induction filter with
  | comparison operator left right =>
      simp only [callsOn, List.mem_append] at made
      rcases made with inner | inner
      · simp [calls, Operand.mem_calls_of_mem_callsInOrder inner]
      · simp [calls, Operand.mem_calls_of_mem_callsInOrder inner]
  | stringTest test first second =>
      simp only [callsOn, List.mem_append, List.mem_singleton] at made
      rcases made with inner | inner | rfl
      · simp [calls, Operand.mem_calls_of_mem_callsInOrder inner]
      · simp [calls, Operand.mem_calls_of_mem_callsInOrder inner]
      · simp [calls, CheckedCall.ofTest]
  | and left right inLeft inRight =>
      rcases List.mem_append.mp made with inner | inner
      · exact List.mem_append_left _ (inLeft inner)
      split at inner
      · exact List.mem_append_right _ (inRight inner)
      · cases inner
  | or left right inLeft inRight =>
      rcases List.mem_append.mp made with inner | inner
      · exact List.mem_append_left _ (inLeft inner)
      split at inner
      · exact List.mem_append_right _ (inRight inner)
      · cases inner

/-- A filter fails on a list of records in one of its calls on one of the records. -/
theorem Filter.exists_isIn_of_keep {filter : Filter} {records : List Json}
    (failed : filter.keep records = .error mismatch)
    : ∃ record ∈ records, mismatch.IsIn filter.calls record := by
  obtain ⟨record, member, failed⟩ := (keep_eq_error_iff.mp failed).exists_mem
  obtain ⟨call, made, failed⟩ := (accepts_eq_error_iff.mp failed).exists_mem
  exact ⟨record, member, call.toCall, mem_calls_of_mem_callsOn made, failed.isOf⟩

end RecordQuery
