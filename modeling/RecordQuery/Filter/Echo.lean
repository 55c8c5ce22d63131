import RecordQuery.Filter.Basic

/-! Filters as JSON values, in which clients are told what was applied. -/

namespace RecordQuery

/-- The JSON form of a call. -/
def Json.callEcho (name : String) (arguments : List Json) : Json :=
  .object
    [("type", .string "functioncall"), ("func", .string name), ("args", .array arguments)]

/-- The JSON form of an operand. -/
def Operand.echo : Operand → Json
  | .property path => .object [("type", .string "property"), ("name", .string path.text)]
  | .literal value => .object [("type", .string "literal"), ("value", value)]
  | .unary function argument => Json.callEcho (Function.unary function).name [argument.echo]
  | .binary function first second =>
    Json.callEcho (Function.binary function).name [first.echo, second.echo]
  | .ternary function first second third =>
    Json.callEcho (Function.ternary function).name [first.echo, second.echo, third.echo]

/-- The JSON form of a condition with two sides. -/
def Json.sidesEcho (type : String) (left right : Json) : Json :=
  .object [("type", .string type), ("left", left), ("right", right)]

/-- The JSON form of a filter. -/
def Filter.echo : Filter → Json
  | .comparison operator left right => Json.sidesEcho operator.name left.echo right.echo
  | .stringTest test first second => Json.callEcho test.name [first.echo, second.echo]
  | .and left right => Json.sidesEcho "and" left.echo right.echo
  | .or left right => Json.sidesEcho "or" left.echo right.echo

end RecordQuery
