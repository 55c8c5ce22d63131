import RecordQuery.Json.Basic

/-! TOML documents. A document is a table that is put together from statements: entries, headers
that begin a table, and headers that begin one more table of an array. A key or a header may name
tables that are not there yet, which are then made. What may be added to a table later depends on
how it came about, and no entry is ever given twice.
-/

namespace RecordQuery.Toml

/-- A floating-point number. -/
inductive FloatValue where
  | finite (value : Binary64)
  | infinity (negative : Bool)
  | notANumber
  deriving DecidableEq

/-- How a table came about: on the way to another table's header, on the way to an entry, by a
header of its own, or in one line.
-/
inductive Origin where
  | implied
  | dotted
  | header
  | inline
  deriving DecidableEq

/-- A value. A table keeps its entries in the order in which they were put in. -/
inductive Value where
  | string (text : String)
  | integer (value : Int)
  | float (value : FloatValue)
  | boolean (value : Bool)
  | dateTime (text : String)
  | array (items : List Value)
  | table (origin : Origin) (entries : List (String × Value))
  | tableArray (tables : List Value)
  deriving Inhabited

/-- An entry of a table. -/
abbrev Entry := String × Value

/-- A key: the names of the tables on the way, and a name in the last of them. -/
structure Key where
  path : List String
  name : String
  deriving DecidableEq

/-- All names of a key. -/
def Key.names (key : Key) : List String :=
  key.path ++ [key.name]

/-- Put an entry in; one that is there keeps its place. -/
def put (name : String) (value : Value) : List Entry → List Entry
  | [] => [(name, value)]
  | (key, old) :: rest =>
    if key = name then (key, value) :: rest else (key, old) :: put name value rest

/-- How a path is followed: as what a table on the way is made, and which tables it leads through.
-/
structure Route where
  made : Origin
  enters : Origin → Bool

namespace Route

/-- The way to a table from its header: through any table but those written in one line. -/
def header : Route := ⟨.implied, (· ≠ .inline)⟩

/-- The way to an entry from its key: only through tables that no header of their own began. -/
def key : Route := ⟨.dotted, fun origin => origin = .implied || origin = .dotted⟩

/-- Change the table at the end of a path, none if the path does not lead to a table or the change
cannot be made. In an array of tables a path leads on from the last one.
-/
def change? (route : Route) (make : Origin → List Entry → Option (List Entry))
    : List String → Origin → List Entry → Option (List Entry)
  | [], origin, entries => make origin entries
  | name :: rest, _, entries =>
    match entries.lookup name with
    | none => do
      let inner ← route.change? make rest route.made []
      some (put name (.table route.made inner) entries)
    | some (.table origin inner) =>
      if route.enters origin then do
        let inner ← route.change? make rest origin inner
        some (put name (.table origin inner) entries)
      else none
    | some (.tableArray tables) =>
      match tables.getLast? with
      | some (.table origin inner) => do
        let inner ← route.change? make rest origin inner
        some (put name (.tableArray (tables.dropLast ++ [.table origin inner])) entries)
      | _ => none
    | some _ => none

end Route

/-- Add an entry to a table. Where its key has a path, the path has to end in a table that such keys
made.
-/
def addEntry? (key : Key) (value : Value) : List Entry → Option (List Entry) :=
  Route.key.change?
    (fun origin entries =>
      if (key.path.isEmpty || origin = .dotted) && (entries.lookup key.name).isNone then
        some (entries ++ [(key.name, value)])
      else none)
    key.path .header

/-- Begin a table, which may have been made on the way to another one before. -/
def beginTable? (key : Key) : List Entry → Option (List Entry) :=
  Route.header.change?
    (fun _ entries =>
      match entries.lookup key.name with
      | none => some (entries ++ [(key.name, .table .header [])])
      | some (.table .implied inner) =>
        some (entries.filter (fun entry => entry.1 ≠ key.name)
          ++ [(key.name, .table .header inner)])
      | some _ => none)
    key.path .header

/-- Begin one more table of an array of tables. -/
def beginItem? (key : Key) : List Entry → Option (List Entry) :=
  Route.header.change?
    (fun _ entries =>
      match entries.lookup key.name with
      | none => some (entries ++ [(key.name, .tableArray [.table .header []])])
      | some (.tableArray tables) =>
        some (put key.name (.tableArray (tables ++ [.table .header []])) entries)
      | some _ => none)
    key.path .header

/-- A statement of a document. -/
inductive Statement where
  | entry (key : Key) (value : Value)
  | table (key : Key)
  | item (key : Key)

/-- A document so far, and the path of the table that entries are added to. -/
structure Draft where
  root : List Entry
  here : List String

namespace Draft

/-- The document without statements. -/
def empty : Draft := ⟨[], []⟩

/-- The document after one more statement. -/
def add? (draft : Draft) : Statement → Option Draft
  | .entry key value => do
    let root ←
      Route.header.change? (fun _ entries => addEntry? key value entries) draft.here .header
        draft.root
    some ⟨root, draft.here⟩
  | .table key => (beginTable? key draft.root).map (⟨·, key.names⟩)
  | .item key => (beginItem? key draft.root).map (⟨·, key.names⟩)

end Draft

/-- The table that statements put together. -/
def tableOf? (statements : List Statement) : Option (List Entry) :=
  (statements.foldlM Draft.add? Draft.empty).map Draft.root

/-- The table in one line that some entries put together. -/
def inlineTable? (entries : List (Key × Value)) : Option Value :=
  (entries.foldlM (fun table (key, value) => addEntry? key value table) []).map (.table .inline)

/-! ### Values of documents as JSON values -/

/-- A floating-point number as a JSON value, which knows only finite ones. -/
def FloatValue.toJson : FloatValue → Json
  | .finite x => .number (.double x)
  | .infinity _ | .notANumber => .null

mutual
/-- The JSON value with the same content. A date or time becomes an object, as it is no text. -/
def Value.toJson : Value → Json
  | .string text => .string text
  | .integer n => .number (.nearestInt n)
  | .float x => x.toJson
  | .boolean b => .bool b
  | .dateTime text => .object [("dateTime", .string text)]
  | .array items => .array (Value.itemsToJson items)
  | .table _ entries => .object (Value.entriesToJson entries)
  | .tableArray tables => .array (Value.itemsToJson tables)

/-- The JSON values of some values. -/
def Value.itemsToJson : List Value → List Json
  | [] => []
  | item :: rest => item.toJson :: Value.itemsToJson rest

/-- The fields of some entries. -/
def Value.entriesToJson : List (String × Value) → List Json.Field
  | [] => []
  | (name, value) :: rest => (name, value.toJson) :: Value.entriesToJson rest
end

end RecordQuery.Toml
