import RecordQuery.Filter.Echo
import RecordQuery.Proofs.Filter.Names
import RecordQuery.Proofs.Json.Equality
import RecordQuery.Proofs.Path.Spelling

/-! What the JSON form tells of a filter: all of it. The type of a form tells the kind of its node,
up to whether a call is one of a function or of a test; but a condition never stands where an
operand does, so no form stands for two trees. What a literal holds is not looked into, so it may
itself be the form of a node.
-/

namespace RecordQuery

/-- Two operands are one tree, with related values at the literals. -/
inductive Operand.Agrees (R : Json → Json → Prop) : Operand → Operand → Prop where
  | property (path : PropertyPath) : Agrees R (.property path) (.property path)
  | literal {value other : Json} (related : R value other)
    : Agrees R (.literal value) (.literal other)
  | unary (function : UnaryFunction) {a b : Operand} (argument : Agrees R a b)
    : Agrees R (.unary function a) (.unary function b)
  | binary (function : BinaryFunction) {a b a' b' : Operand} (first : Agrees R a a')
      (second : Agrees R b b')
    : Agrees R (.binary function a b) (.binary function a' b')
  | ternary (function : TernaryFunction) {a b c a' b' c' : Operand} (first : Agrees R a a')
      (second : Agrees R b b') (third : Agrees R c c')
    : Agrees R (.ternary function a b c) (.ternary function a' b' c')

/-- Two filters are one tree, with related values at the literals. -/
inductive Filter.Agrees (R : Json → Json → Prop) : Filter → Filter → Prop where
  | comparison (operator : Comparison) {a b a' b' : Operand} (left : a.Agrees R a')
      (right : b.Agrees R b')
    : Agrees R (.comparison operator a b) (.comparison operator a' b')
  | stringTest (test : StringTest) {a b a' b' : Operand} (first : a.Agrees R a')
      (second : b.Agrees R b')
    : Agrees R (.stringTest test a b) (.stringTest test a' b')
  | and {a b a' b' : Filter} (left : Agrees R a a') (right : Agrees R b b')
    : Agrees R (.and a b) (.and a' b')
  | or {a b a' b' : Filter} (left : Agrees R a a') (right : Agrees R b b')
    : Agrees R (.or a b) (.or a' b')

-----------------------------------------------------------------------------------------
-- The forms of nodes
-----------------------------------------------------------------------------------------

variable {R : Json → Json → Prop}

theorem Json.SeesInside.callEcho (sees : SeesInside R) {name name' : String}
    {arguments arguments' : List Json}
    : R (Json.callEcho name arguments) (Json.callEcho name' arguments')
      ↔ name = name' ∧ List.Forall₂ R arguments arguments' := by
  constructor
  · intro related
    obtain ⟨_, ⟨⟩, named⟩ := sees.field related (show field? "func" _ = _ from rfl)
    obtain ⟨_, ⟨⟩, given⟩ := sees.field related (show field? "args" _ = _ from rfl)
    exact ⟨sees.string.mp named, sees.array.mp given⟩
  · rintro ⟨rfl, given⟩
    refine sees.object (by simp) (.cons ⟨rfl, ?_⟩ (.cons ⟨rfl, ?_⟩ (.cons ⟨rfl, ?_⟩ .nil)))
    · exact sees.string.mpr rfl
    · exact sees.string.mpr rfl
    · exact sees.array.mpr given

theorem Json.SeesInside.sidesEcho (sees : SeesInside R) {type type' : String}
    {left right left' right' : Json}
    : R (Json.sidesEcho type left right) (Json.sidesEcho type' left' right')
      ↔ type = type' ∧ R left left' ∧ R right right' := by
  constructor
  · intro related
    obtain ⟨_, ⟨⟩, typed⟩ := sees.field related (show field? "type" _ = _ from rfl)
    obtain ⟨_, ⟨⟩, first⟩ := sees.field related (show field? "left" _ = _ from rfl)
    obtain ⟨_, ⟨⟩, second⟩ := sees.field related (show field? "right" _ = _ from rfl)
    exact ⟨sees.string.mp typed, first, second⟩
  · rintro ⟨rfl, first, second⟩
    refine sees.object (by simp) (.cons ⟨rfl, ?_⟩ (.cons ⟨rfl, first⟩ (.cons ⟨rfl, second⟩ .nil)))
    exact sees.string.mpr rfl

/-- The type that the form of an operand tells. -/
def Operand.type : Operand → String
  | .property _ => "property"
  | .literal _ => "literal"
  | .unary .. | .binary .. | .ternary .. => "functioncall"

theorem Operand.exists_echo (operand : Operand)
    : ∃ fields, operand.echo = .object fields
      ∧ Json.field? "type" fields = some (.string operand.type) := by
  cases operand with
  | property path => exact ⟨_, rfl, rfl⟩
  | literal value => exact ⟨_, rfl, rfl⟩
  | unary function a => exact ⟨_, rfl, rfl⟩
  | binary function a b => exact ⟨_, rfl, rfl⟩
  | ternary function a b c => exact ⟨_, rfl, rfl⟩

/-- The type that the form of a filter tells. -/
def Filter.type : Filter → String
  | .comparison operator .. => operator.name
  | .stringTest .. => "functioncall"
  | .and .. => "and"
  | .or .. => "or"

theorem Filter.exists_echo (filter : Filter)
    : ∃ fields, filter.echo = .object fields
      ∧ Json.field? "type" fields = some (.string filter.type) := by
  cases filter with
  | comparison operator a b => exact ⟨_, rfl, rfl⟩
  | stringTest test a b => exact ⟨_, rfl, rfl⟩
  | and left right => exact ⟨_, rfl, rfl⟩
  | or left right => exact ⟨_, rfl, rfl⟩

/-- Related objects tell one type. -/
theorem Json.SeesInside.type_eq (sees : SeesInside R) {x y : Json} {type type' : String}
    (typed : ∃ fields, x = .object fields ∧ field? "type" fields = some (.string type))
    (typed' : ∃ fields, y = .object fields ∧ field? "type" fields = some (.string type'))
    (related : R x y)
    : type = type' := by
  obtain ⟨fields, rfl, told⟩ := typed
  obtain ⟨fields', rfl, told'⟩ := typed'
  obtain ⟨other, found, same⟩ := sees.field related told
  rw [told'] at found
  cases found
  exact sees.string.mp same

/-- Operands with related forms are of one type. -/
theorem Operand.type_eq_of_related (sees : Json.SeesInside R) {f g : Operand}
    (related : R f.echo g.echo)
    : f.type = g.type :=
  sees.type_eq f.exists_echo g.exists_echo related

theorem Filter.type_eq_of_related (sees : Json.SeesInside R) {f g : Filter}
    (related : R f.echo g.echo)
    : f.type = g.type :=
  sees.type_eq f.exists_echo g.exists_echo related

/-- Keys under which everything is found tell things apart. -/
theorem eq_of_found {α : Type} {key : α → String} {find? : String → Option α}
    (found : ∀ {name a}, find? name = some a ↔ key a = name) {a b : α} (same : key a = key b)
    : a = b :=
  Option.some.inj ((found.mpr same).symm.trans (found.mpr rfl))

-----------------------------------------------------------------------------------------
-- Operands
-----------------------------------------------------------------------------------------

/-- Operands with related forms are one tree, by induction on the first. -/
theorem Operand.agrees_of_related (sees : Json.SeesInside R) {f g : Operand}
    (related : R f.echo g.echo)
    : f.Agrees R g := by
  induction f generalizing g with
  | property path =>
      cases g with
      | property path' =>
          obtain ⟨_, ⟨⟩, named⟩ :=
            sees.field related (show Json.field? "name" _ = _ from rfl)
          cases PropertyPath.ext (sees.string.mp named)
          exact .property path
      | literal | unary | binary | ternary =>
          exact absurd (type_eq_of_related sees related) (by simp [type])
  | literal value =>
      cases g with
      | literal value' =>
          obtain ⟨_, ⟨⟩, same⟩ :=
            sees.field related (show Json.field? "value" _ = _ from rfl)
          exact .literal same
      | property | unary | binary | ternary =>
          exact absurd (type_eq_of_related sees related) (by simp [type])
  | unary function a ih =>
      cases g with
      | unary function' a' =>
          obtain ⟨named, given⟩ := sees.callEcho.mp related
          cases eq_of_found Function.ofName?_eq_some named
          cases given with
          | cons first => exact .unary function (ih first)
      | binary | ternary =>
          exact nomatch eq_of_found Function.ofName?_eq_some (sees.callEcho.mp related).1
      | property | literal =>
          exact absurd (type_eq_of_related sees related) (by simp [type])
  | binary function a b ihA ihB =>
      cases g with
      | binary function' a' b' =>
          obtain ⟨named, given⟩ := sees.callEcho.mp related
          cases eq_of_found Function.ofName?_eq_some named
          cases given with
          | cons first given =>
              cases given with
              | cons second => exact .binary function (ihA first) (ihB second)
      | unary | ternary =>
          exact nomatch eq_of_found Function.ofName?_eq_some (sees.callEcho.mp related).1
      | property | literal =>
          exact absurd (type_eq_of_related sees related) (by simp [type])
  | ternary function a b c ihA ihB ihC =>
      cases g with
      | ternary function' a' b' c' =>
          obtain ⟨named, given⟩ := sees.callEcho.mp related
          cases eq_of_found Function.ofName?_eq_some named
          cases given with
          | cons first given =>
              cases given with
              | cons second given =>
                  cases given with
                  | cons third => exact .ternary function (ihA first) (ihB second) (ihC third)
      | unary | binary =>
          exact nomatch eq_of_found Function.ofName?_eq_some (sees.callEcho.mp related).1
      | property | literal =>
          exact absurd (type_eq_of_related sees related) (by simp [type])

/-- One tree has related forms. -/
theorem Operand.Agrees.related (sees : Json.SeesInside R) {f g : Operand} (agree : f.Agrees R g)
    : R f.echo g.echo := by
  induction agree with
  | property path =>
      refine sees.object (by simp) (.cons ⟨rfl, ?_⟩ (.cons ⟨rfl, ?_⟩ .nil))
      · exact sees.string.mpr rfl
      · exact sees.string.mpr rfl
  | literal related =>
      refine sees.object (by simp) (.cons ⟨rfl, ?_⟩ (.cons ⟨rfl, related⟩ .nil))
      exact sees.string.mpr rfl
  | unary function _ first => exact sees.callEcho.mpr ⟨rfl, .cons first .nil⟩
  | binary function _ _ first second =>
      exact sees.callEcho.mpr ⟨rfl, .cons first (.cons second .nil)⟩
  | ternary function _ _ _ first second third =>
      exact sees.callEcho.mpr ⟨rfl, .cons first (.cons second (.cons third .nil))⟩

theorem Operand.related_echo_iff (sees : Json.SeesInside R) {f g : Operand}
    : R f.echo g.echo ↔ f.Agrees R g :=
  ⟨agrees_of_related sees, Agrees.related sees⟩

theorem Operand.agrees_eq_iff {f g : Operand} : f.Agrees Eq g ↔ f = g := by
  constructor
  · intro agree
    induction agree with
    | property path => rfl
    | literal same => rw [same]
    | unary function _ first => rw [first]
    | binary function _ _ first second => rw [first, second]
    | ternary function _ _ _ first second third => rw [first, second, third]
  · rintro rfl
    exact (related_echo_iff Json.seesInside_eq).mp rfl

-----------------------------------------------------------------------------------------
-- Filters
-----------------------------------------------------------------------------------------

/-- No comparison is called by the name of another kind of filter. -/
theorem Comparison.name_ne (operator : Comparison)
    : operator.name ≠ "and" ∧ operator.name ≠ "or" ∧ operator.name ≠ "functioncall" := by
  cases operator <;> decide

/-- Filters with related forms are one tree, by induction on the first. -/
theorem Filter.agrees_of_related (sees : Json.SeesInside R) {f g : Filter}
    (related : R f.echo g.echo)
    : f.Agrees R g := by
  induction f generalizing g with
  | comparison operator a b =>
      cases g with
      | comparison operator' a' b' =>
          obtain ⟨named, first, second⟩ := sees.sidesEcho.mp related
          cases eq_of_found Comparison.ofName?_eq_some named
          exact .comparison operator (Operand.agrees_of_related sees first)
            (Operand.agrees_of_related sees second)
      | and => exact absurd (type_eq_of_related sees related) operator.name_ne.1
      | or => exact absurd (type_eq_of_related sees related) operator.name_ne.2.1
      | stringTest => exact absurd (type_eq_of_related sees related) operator.name_ne.2.2
  | stringTest test a b =>
      cases g with
      | stringTest test' a' b' =>
          obtain ⟨named, given⟩ := sees.callEcho.mp related
          cases eq_of_found StringTest.ofName?_eq_some named
          cases given with
          | cons first given =>
              cases given with
              | cons second =>
                  exact .stringTest test (Operand.agrees_of_related sees first)
                    (Operand.agrees_of_related sees second)
      | comparison operator =>
          exact absurd (type_eq_of_related sees related).symm operator.name_ne.2.2
      | and | or => exact absurd (type_eq_of_related sees related) (by simp [type])
  | and left right ihLeft ihRight =>
      cases g with
      | and left' right' =>
          obtain ⟨_, first, second⟩ := sees.sidesEcho.mp related
          exact .and (ihLeft first) (ihRight second)
      | comparison operator =>
          exact absurd (type_eq_of_related sees related).symm operator.name_ne.1
      | stringTest | or => exact absurd (type_eq_of_related sees related) (by simp [type])
  | or left right ihLeft ihRight =>
      cases g with
      | or left' right' =>
          obtain ⟨_, first, second⟩ := sees.sidesEcho.mp related
          exact .or (ihLeft first) (ihRight second)
      | comparison operator =>
          exact absurd (type_eq_of_related sees related).symm operator.name_ne.2.1
      | stringTest | and => exact absurd (type_eq_of_related sees related) (by simp [type])

/-- One tree has related forms. -/
theorem Filter.Agrees.related (sees : Json.SeesInside R) {f g : Filter} (agree : f.Agrees R g)
    : R f.echo g.echo := by
  induction agree with
  | comparison operator left right =>
      exact sees.sidesEcho.mpr ⟨rfl, left.related sees, right.related sees⟩
  | stringTest test first second =>
      exact sees.callEcho.mpr
        ⟨rfl, .cons (first.related sees) (.cons (second.related sees) .nil)⟩
  | and _ _ left right => exact sees.sidesEcho.mpr ⟨rfl, left, right⟩
  | or _ _ left right => exact sees.sidesEcho.mpr ⟨rfl, left, right⟩

theorem Filter.related_echo_iff (sees : Json.SeesInside R) {f g : Filter}
    : R f.echo g.echo ↔ f.Agrees R g :=
  ⟨agrees_of_related sees, Agrees.related sees⟩

theorem Filter.agrees_eq_iff {f g : Filter} : f.Agrees Eq g ↔ f = g := by
  constructor
  · intro agree
    induction agree with
    | comparison operator left right =>
        rw [Operand.agrees_eq_iff.mp left, Operand.agrees_eq_iff.mp right]
    | stringTest test first second =>
        rw [Operand.agrees_eq_iff.mp first, Operand.agrees_eq_iff.mp second]
    | and _ _ left right => rw [left, right]
    | or _ _ left right => rw [left, right]
  · rintro rfl
    exact (related_echo_iff Json.seesInside_eq).mp rfl

/-- The JSON form determines a filter, and an operand: where the forms are the same, so are the
trees, with all that they hold. Where the forms are only equal, with the fields of objects in
whatever order and zeros of whatever sign, the trees are the same but for literals, which are equal
in that sense.
-/
theorem Filter.echo_determines
    : (∀ f g : Filter, f.echo = g.echo ↔ f = g)
      ∧ (∀ f g : Operand, f.echo = g.echo ↔ f = g)
      ∧ (∀ f g : Filter, f.echo.IsEqualTo g.echo ↔ f.Agrees Json.IsEqualTo g)
      ∧ ∀ f g : Operand, f.echo.IsEqualTo g.echo ↔ f.Agrees Json.IsEqualTo g := by
  refine ⟨fun f g => ?_, fun f g => ?_, fun f g => ?_, fun f g => ?_⟩
  · rw [Filter.related_echo_iff Json.seesInside_eq, Filter.agrees_eq_iff]
  · rw [Operand.related_echo_iff Json.seesInside_eq, Operand.agrees_eq_iff]
  · exact Filter.related_echo_iff Json.seesInside_isEqualTo
  · exact Operand.related_echo_iff Json.seesInside_isEqualTo

end RecordQuery
