import RecordQuery.Files.Basic

/-! A folder of text files held in memory. A name with slashes is the name of a file in a folder
inside; a folder is there as long as it holds a file. Nothing is known of what lies outside, except
that there are folders above.
-/

namespace RecordQuery

/-- The text files of a folder with their names. -/
structure Folder where
  files : List (String × String)
  deriving DecidableEq

namespace Folder

/-- The parts of a name. -/
def parts (name : String) : List String :=
  (name.toList.splitOn '/').map String.ofList

/-- The name with some parts. -/
def nameOf (parts : List String) : String :=
  String.intercalate "/" parts

/-- The text of the file with some parts. -/
def text? (folder : Folder) (path : List String) : Option String :=
  folder.files.lookup (nameOf path)

/-- A file lies in the folder with some parts, or in a folder inside that one. -/
def hasFolder (folder : Folder) (path : List String) : Bool :=
  path.isEmpty || folder.files.any (fun file => path.isPrefixOf (parts file.1).dropLast)

/-- Where a name leads. -/
inductive Place where
  | file (path : List String)
  | folder
  | throughFile
  | nowhere (path rest : List String)
  deriving DecidableEq

/-- A part that leads to no name: it stays in a folder or goes to the one above. -/
def isMove (part : String) : Bool :=
  part = "" || part = "." || part = ".."

/-- Where a name leads that leaves the folder. -/
def outside (rest : List String) : Place :=
  if rest.all isMove then .folder else .nowhere [] rest

/-- Where parts lead from a folder inside. -/
def placeFrom (folder : Folder) : List String → List String → Place
  | _, [] => .folder
  | here, part :: rest =>
    if part = "" ∨ part = "." then folder.placeFrom here rest
    else if part = ".." then
      if here.isEmpty then outside rest else folder.placeFrom here.dropLast rest
    else if (folder.text? (here ++ [part])).isSome then
      if rest.isEmpty then .file (here ++ [part]) else .throughFile
    else if folder.hasFolder (here ++ [part]) then folder.placeFrom (here ++ [part]) rest
    else .nowhere (here ++ [part]) rest

/-- Where a name leads; one that starts with a slash leaves the folder. -/
def place (folder : Folder) (name : String) : Place :=
  if name.toList.head? = some '/' then outside (parts name)
  else folder.placeFrom [] (parts name)

/-- The folder with a text put into a file. -/
def put (folder : Folder) (name text : String) : Folder :=
  if (folder.files.lookup name).isSome then
    ⟨folder.files.map (fun file => if file.1 = name then (name, text) else file)⟩
  else ⟨folder.files ++ [(name, text)]⟩

/-- Whether something is there under a name. -/
def contains (folder : Folder) (name : String) : Bool :=
  match folder.place name with
  | .file _ | .folder => true
  | .throughFile | .nowhere .. => false

/-- The text of a file. -/
def read (folder : Folder) (name : String) : Except FileError String :=
  match folder.place name with
  | .file path =>
    match folder.text? path with
    | some text => .ok text
    | none => .error .notFound
  | .folder => .error .isFolder
  | .throughFile => .error .notFolder
  | .nowhere .. => .error .notFound

/-- The folder after a text is put into a file. A new file needs its folder to be there, and its
name has no slash at the end.
-/
def write (folder : Folder) (name text : String) : Except FileError Folder :=
  match folder.place name with
  | .file path => .ok (folder.put (nameOf path) text)
  | .folder => .error .isFolder
  | .throughFile => .error .notFolder
  | .nowhere path rest =>
    if path.isEmpty then .error .notFound
    else if rest.isEmpty then .ok (folder.put (nameOf path) text)
    else if rest.all (· = "") then .error .isFolder
    else .error .notFound

/-- The operations on the files of a folder. -/
def access : Files (StateM Folder) where
  contains name := do return (← get).contains name
  read name := do return (← get).read name
  write name text := do
    match (← get).write name text with
    | .ok folder =>
      set folder
      return .ok ()
    | .error error => return .error error

end Folder

end RecordQuery
