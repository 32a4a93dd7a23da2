import LoxLexer.Stream.Failure

/-! # Files below a directory

A tree of files and directories below a starting directory, and how a path finds its way through
it: component by component, `.` and empty components staying where they are and `..` going up.
Above the starting directory lies an outside in which no name is known.
-/

set_option autoImplicit false

namespace LoxLexer

namespace FileTree

inductive Entry where
  | file (content : ByteArray)
  | directory

/-- Where a directory is: below the start, by its names from there, or outside. -/
inductive Place where
  | inside (names : List String)
  | outside

/-- What a path has led to. -/
inductive Node where
  | directory (place : Place)
  | file (content : ByteArray)

end FileTree

/-- Entries by their names from the start; a directory that holds an entry needs none itself. -/
structure FileTree where
  entries : List (List String × FileTree.Entry) := []

namespace FileTree

/-! ## Making entries -/

/-- The names of a path from the start. -/
def names (path : String) : List String :=
  (path.splitOn "/").foldl enter []
where
  enter (names : List String) (component : String) : List String :=
    if component = "" ∨ component = "." then names
    else if component = ".." then names.dropLast
    else names ++ [component]

def put (t : FileTree) (path : String) (entry : Entry) : FileTree :=
  let key := names path
  { entries := (key, entry) :: t.entries.filter (fun e => e.1 != key) }

/-! ## Finding entries -/

/-- The node with these names from the start. -/
def find? (t : FileTree) (names : List String) : Option Node :=
  match t.entries.find? (fun e => e.1 == names) with
  | some (_, .file content) => some (.file content)
  | some (_, .directory) => some (.directory (.inside names))
  | none =>
    if t.entries.any (fun e => names.isPrefixOf e.1) then some (.directory (.inside names))
    else none

theorem find?_put_file (t : FileTree) (path : String) (content : ByteArray) :
    (t.put path (.file content)).find? (names path) = some (.file content) := by
  simp [put, find?]

/-- The longest name of an entry, in bytes. -/
def nameLimit : Nat := 255

/-- The length in bytes from which a path is refused. -/
def pathLimit : Nat := 4096

def Place.parent : Place → Place
  | inside [] => outside
  | inside (n :: ns) => inside (n :: ns).dropLast
  | outside => outside

/-- Follow one component. -/
def step (t : FileTree) (node : Node) (component : String) : Except Failure Node :=
  match node with
  | .file _ => .error .fileAsDirectory
  | .directory place =>
    if component = "" ∨ component = "." then .ok (.directory place)
    else if component = ".." then .ok (.directory place.parent)
    else if nameLimit < component.utf8ByteSize then .error .nameTooLong
    else match place with
      | .outside => .error .noSuchFile
      | .inside names =>
        match t.find? (names ++ [component]) with
        | some node => .ok node
        | none => .error .noSuchFile

/-- The content of the file at a path. -/
def read (t : FileTree) (path : String) : Except Failure ByteArray :=
  if path.toList.contains '\x00' then .error .nulInName
  else if path = "" then .error .noSuchFile
  else if pathLimit ≤ path.utf8ByteSize then .error .nameTooLong
  else
    let start := if path.toList.head? = some '/' then Place.outside else Place.inside []
    match (path.splitOn "/").foldlM t.step (.directory start) with
    | .error failure => .error failure
    | .ok (.directory _) => .error .directoryAsFile
    | .ok (.file content) => .ok content

end FileTree

end LoxLexer
