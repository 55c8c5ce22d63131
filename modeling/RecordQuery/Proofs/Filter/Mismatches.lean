import RecordQuery.Filter.Evaluation

/-! The calls in a filter, each with as many arguments as it takes, and what a failure tells of one:
it names the call and shows one of the arguments that the call was given, whose value on the record
is not what the call expects.
-/

namespace RecordQuery

/-- Whether a value is what the argument of a call has to be. -/
def Expected.isMetBy : Expected → Option Json → Bool
  | .strings, some (.string _) => true
  | .numbers, some (.number _) => true
  | .stringsOrNumbers, some (.string _) | .stringsOrNumbers, some (.number _) => true
  | .validDates, some (.string s) => (Calendar.Moment.read? s).isSome
  | .validDates, some (.number n) => (Argument.momentOfNumber? n).isSome
  | _, _ => false

/-- How many arguments a test takes. -/
def StringTest.arity : StringTest → Nat
  | .startsWith | .endsWith | .substringOf => 2

/-- A call of a function or a test: its name, how many arguments that takes, and those it is given.
-/
structure Call where
  name : String
  arity : Nat
  operands : List Operand

def Call.ofFunction (function : Function) (operands : List Operand) : Call :=
  ⟨function.name, function.arity, operands⟩

def Call.ofTest (test : StringTest) (operands : List Operand) : Call :=
  ⟨test.name, test.arity, operands⟩

/-- The calls in an operand, at any depth. -/
def Operand.calls : Operand → List Call
  | .property _ | .literal _ => []
  | .unary function a => .ofFunction (.unary function) [a] :: a.calls
  | .binary function a b => .ofFunction (.binary function) [a, b] :: (a.calls ++ b.calls)
  | .ternary function a b c =>
    .ofFunction (.ternary function) [a, b, c] :: (a.calls ++ b.calls ++ c.calls)

/-- The calls in a filter, at any depth. -/
def Filter.calls : Filter → List Call
  | .comparison _ left right => left.calls ++ right.calls
  | .stringTest test first second =>
    .ofTest test [first, second] :: (first.calls ++ second.calls)
  | .and left right | .or left right => left.calls ++ right.calls

/-- A failure is about a call on a record: it names the call, and shows the argument that the call
has at some index, with the value that this one has on the record and that the call cannot take.
-/
structure TypeMismatch.IsOf (mismatch : TypeMismatch) (call : Call) (record : Json) : Prop where
  name : mismatch.name = call.name
  argument : ∃ index : Nat, call.operands[index]? = some mismatch.argument.operand
  value : mismatch.argument.operand.eval record = .ok mismatch.argument.value
  refused : mismatch.expected.isMetBy mismatch.argument.value = false

/-- A failure is about one of some calls on a record. -/
def TypeMismatch.IsIn (mismatch : TypeMismatch) (calls : List Call) (record : Json) : Prop :=
  ∃ call ∈ calls, mismatch.IsOf call record

-----------------------------------------------------------------------------------------
-- Calls and their arguments
-----------------------------------------------------------------------------------------

/-- Every call in an operand has as many arguments as its function takes. -/
theorem Operand.length_of_mem_calls {operand : Operand} {call : Call}
    (member : call ∈ operand.calls)
    : call.operands.length = call.arity := by
  induction operand with
  | property path => cases member
  | literal value => cases member
  | unary function a inA =>
      rcases List.mem_cons.mp member with rfl | inner
      · rfl
      · exact inA inner
  | binary function a b inA inB =>
      rcases List.mem_cons.mp member with rfl | inner
      · rfl
      · exact (List.mem_append.mp inner).elim inA inB
  | ternary function a b c inA inB inC =>
      rcases List.mem_cons.mp member with rfl | inner
      · rfl
      · rcases List.mem_append.mp inner with inner | inner
        · exact (List.mem_append.mp inner).elim inA inB
        · exact inC inner

/-- Every call in a filter has as many arguments as what it calls takes. -/
theorem Filter.length_of_mem_calls {filter : Filter} {call : Call} (member : call ∈ filter.calls)
    : call.operands.length = call.arity := by
  induction filter with
  | comparison operator left right =>
      exact (List.mem_append.mp member).elim Operand.length_of_mem_calls
        Operand.length_of_mem_calls
  | stringTest test first second =>
      rcases List.mem_cons.mp member with rfl | inner
      · cases test <;> rfl
      · exact (List.mem_append.mp inner).elim Operand.length_of_mem_calls
          Operand.length_of_mem_calls
  | and left right inLeft inRight =>
      exact (List.mem_append.mp member).elim inLeft inRight
  | or left right inLeft inRight =>
      exact (List.mem_append.mp member).elim inLeft inRight

end RecordQuery
