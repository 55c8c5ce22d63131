import RecordQuery.Calendar.Reader
import RecordQuery.Error
import RecordQuery.Order
import RecordQuery.Text.LetterCase
import RecordQuery.Text.Search

/-! What filters say of a record. The arguments of a call are evaluated from left to right before
the call looks at any of them; the right side of a conjunction or a disjunction is evaluated only
where the left side does not decide.
-/

namespace RecordQuery

namespace Argument

/-- The string that an argument is. -/
def string (name : String) (argument : Argument) : Except TypeMismatch String :=
  match argument.value with
  | some (.string s) => .ok s
  | _ => .error ⟨name, .strings, argument⟩

/-- The number that an argument is. -/
def number (name : String) (argument : Argument) : Except TypeMismatch Number :=
  match argument.value with
  | some (.number n) => .ok n
  | _ => .error ⟨name, .numbers, argument⟩

/-- The greatest number of milliseconds before or after the start of 1970 that is a date. -/
def maxMilliseconds : Nat := 8640000000000000

/-- The moment that a number of milliseconds stands for. -/
def momentOfNumber? (n : Number) : Option Calendar.Moment :=
  let x := n.toBinary64
  if x.units ≤ maxMilliseconds * Binary64.one then Calendar.Moment.ofMilliseconds? x.truncate
  else none

/-- The moment that an argument is, as a text or as a number of milliseconds. -/
def moment (name : String) (argument : Argument) : Except TypeMismatch Calendar.Moment :=
  let read (found : Option Calendar.Moment) : Except TypeMismatch Calendar.Moment :=
    match found with
    | some moment => .ok moment
    | none => .error ⟨name, .validDates, argument⟩
  match argument.value with
  | some (.string s) => read (Calendar.Moment.read? s)
  | some (.number n) => read (momentOfNumber? n)
  | _ => .error ⟨name, .stringsOrNumbers, argument⟩

end Argument

/-- An integer as a value. -/
def Json.ofInt (n : Int) : Json := .number (.nearestInt n)

/-- A string value of some characters. -/
def Json.ofChars (text : List Char) : Json := .string (String.ofList text)

/-- The value of a function of one argument. -/
def UnaryFunction.apply (function : UnaryFunction) (argument : Argument)
    : Except TypeMismatch Json :=
  let name := (Function.unary function).name
  let text (result : List Char → Json) : Except TypeMismatch Json :=
    (argument.string name).map (fun s => result s.toList)
  let part (result : Calendar.Moment → Json) : Except TypeMismatch Json :=
    (argument.moment name).map result
  let whole (result : Number → Number) : Except TypeMismatch Json :=
    (argument.number name).map (fun n => .number (result n))
  match function with
  | .toLower => text (fun s => .ofChars (Text.toLower s))
  | .toUpper => text (fun s => .ofChars (Text.toUpper s))
  | .trim => text (fun s => .ofChars (Text.trim s))
  | .length => text (fun s => .ofInt (Text.unitCount s))
  | .year => part (fun moment => .ofInt moment.date.year)
  | .month => part (fun moment => .ofInt ((moment.date.month : Int) - 1))
  | .day => part (fun moment => .ofInt (Calendar.weekday moment.day))
  | .hour => part (fun moment => .ofInt moment.hour)
  | .minute => part (fun moment => .ofInt moment.minute)
  | .second => part (fun moment => .ofInt moment.secondOfMinute)
  | .round => whole Number.round
  | .floor => whole Number.floor
  | .ceiling => whole Number.ceiling

/-- The place of one string in another in UTF-16 units, or -1. -/
def Json.indexOf (text needle : String) : Json :=
  match Text.indexOf? needle.toList text.toList with
  | some place => .ofInt (Text.unitCount (text.toList.take place))
  | none => .ofInt (-1)

/-- The value of a function of two arguments. -/
def BinaryFunction.apply (function : BinaryFunction) (first second : Argument)
    : Except TypeMismatch Json := do
  let name := (Function.binary function).name
  let s ← first.string name
  let t ← second.string name
  match function with
  | .indexOf => return .indexOf s t
  | .concat | .substring => return .string (s ++ t)

/-- The value of a function of three arguments. -/
def TernaryFunction.apply (function : TernaryFunction) (first second third : Argument)
    : Except TypeMismatch Json := do
  let name := (Function.ternary function).name
  let s ← first.string name
  let needle ← second.string name
  let insert ← third.string name
  match function with
  | .replace => return .ofChars (Text.replaceAll needle.toList insert.toList s.toList)

/-- The value of an operand on a record, none where a path leads nowhere. -/
def Operand.eval (record : Json) : Operand → Except TypeMismatch (Option Json)
  | .property path => .ok (path.resolve record)
  | .literal value => .ok (some value)
  | .unary function a => do
    let x ← a.eval record
    some <$> function.apply ⟨a, x⟩
  | .binary function a b => do
    let x ← a.eval record
    let y ← b.eval record
    some <$> function.apply ⟨a, x⟩ ⟨b, y⟩
  | .ternary function a b c => do
    let x ← a.eval record
    let y ← b.eval record
    let z ← c.eval record
    some <$> function.apply ⟨a, x⟩ ⟨b, y⟩ ⟨c, z⟩

/-- Whether a comparison holds between two values that may be absent. -/
def Comparison.holds (operator : Comparison) (left right : Option Json) : Bool :=
  match operator with
  | .eq => strictEq left right
  | .ne => !strictEq left right
  | .lt => partialOrder left right == some .lt
  | .le => partialOrder left right == some .lt || partialOrder left right == some .eq
  | .gt => partialOrder left right == some .gt
  | .ge => partialOrder left right == some .gt || partialOrder left right == some .eq

/-- Whether a test holds of two strings, in the order of the call: `substringof` takes the part
first and the whole second.
-/
def StringTest.holds (test : StringTest) (first second : String) : Bool :=
  match test with
  | .startsWith => second.toList.isPrefixOf first.toList
  | .endsWith => second.toList.isSuffixOf first.toList
  | .substringOf => Text.occursIn first.toList second.toList

/-- Whether a filter accepts a record. -/
def Filter.accepts (record : Json) : Filter → Except TypeMismatch Bool
  | .comparison operator left right => do
    let x ← left.eval record
    let y ← right.eval record
    return operator.holds x y
  | .stringTest test first second => do
    let x ← first.eval record
    let y ← second.eval record
    let s ← Argument.string test.name ⟨first, x⟩
    let t ← Argument.string test.name ⟨second, y⟩
    return test.holds s t
  | .and left right => do
    if ← left.accepts record then right.accepts record else return false
  | .or left right => do
    if ← left.accepts record then return true else right.accepts record

end RecordQuery
