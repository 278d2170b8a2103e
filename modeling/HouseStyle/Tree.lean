import HouseStyle.Path.Basic

/-!
# File trees

A node is a file with its content, or a directory with named entries in byte order of their names; there are no links.
Its access says what the user may do with it. A file tree is the node at the root, with the place of the working
directory below it. Commands are functions of a tree: what they read is looked up in it, and what they write gives a new
tree, or fails.

A path is followed component by component, from the root if it begins with a slash, from the working directory if not.
-/

namespace HouseStyle

/-- What a user may do: read a file or list a directory, write a file or change the entries of a directory, and go
through a directory. -/
structure Access where
  read : Bool := true
  write : Bool := true
  enter : Bool := true
  deriving DecidableEq

/-- A file or a directory. -/
inductive Node where
  | file (access : Access) (content : Text)
  | dir (access : Access) (entries : List (Text × Node))

/-- The node at the root, and the place of the working directory below it. -/
structure Tree where
  root : Node
  here : List Text

namespace Node

/-- The directory with nothing in it. -/
def empty : Node := .dir {} []

/-- What the user may do with a file or a directory. -/
def access : Node → Access
  | .file access _ => access
  | .dir access _ => access

/-- Whether the node is a file. -/
def isFile : Node → Bool
  | .file .. => true
  | .dir .. => false

/-- The entries of a directory; a file has none. -/
def entries : Node → List (Text × Node)
  | .file .. => []
  | .dir _ entries => entries

/-! ## Places -/

/-- The entry with this name. -/
def child? (entries : List (Text × Node)) (name : Text) : Option Node := (entries.find? (·.1 == name)).map (·.2)

/-- What stands at a place, given by the names of the entries that lead to it. -/
def at? : Node → List Text → Option Node
  | n, [] => some n
  | .file .., _ :: _ => none
  | .dir _ entries, name :: rest => (child? entries name).bind (·.at? rest)

/-- The entries with `n` under the name, in byte order. -/
def putEntry (name : Text) (n : Node) : List (Text × Node) → List (Text × Node)
  | [] => [(name, n)]
  | (m, u) :: rest =>
    if m == name then (name, n) :: rest
    else if Text.less name m then (name, n) :: (m, u) :: rest
    else (m, u) :: putEntry name n rest

/-- The node with `leaf` at a place; directories on the way are made. -/
def put (n : Node) : (place : List Text) → (leaf : Node) → Node
  | [], leaf => leaf
  | name :: rest, leaf =>
    .dir n.access (putEntry name (put ((child? n.entries name).getD empty) rest leaf) n.entries)

/-- The directory with these files; a name that ends in a slash is an empty directory. -/
def ofFiles (files : List (Text × Text)) : Node :=
  files.foldl (fun n (path, content) =>
    let place := (path.pieces '/').filter (!·.isEmpty)
    n.put place (if path.endsWith "/" then (n.at? place).getD empty else .file {} content)) empty

/-! ## Walks -/

mutual

/-- The paths and contents of the files of a node that stands at `path`. -/
def filesAt (path : Text) : Node → List (Text × Text)
  | .file _ content => [(path, content)]
  | .dir _ entries => filesIn path entries

/-- The paths and contents of the files below the entries of the directory `path`. -/
def filesIn (path : Text) : List (Text × Node) → List (Text × Text)
  | [] => []
  | (name, n) :: rest => filesAt (if path.isEmpty then name else path ++ "/" ++ name) n ++ filesIn path rest

end

mutual

/-- The files of a node that stands at `path`, in the order of a walk: those that satisfy `wanted` and are in no
directory below the root that satisfies `skipped`. -/
def walk (skipped wanted : Text → Bool) (path : Text) : Node → List Text
  | .file .. => if wanted path then [path] else []
  | .dir _ entries => walkEntries skipped wanted path entries

/-- The files of a walk below the entries of the directory `path`. -/
def walkEntries (skipped wanted : Text → Bool) (path : Text) : List (Text × Node) → List Text
  | [] => []
  | (name, n) :: rest =>
    (if n.isFile || !skipped (Path.below path name) then walk skipped wanted (Path.below path name) n else []) ++
      walkEntries skipped wanted path rest

end

mutual

/-- The first directory, in the order of a walk, that the walk cannot list. -/
def barrier? (skipped : Text → Bool) (path : Text) : Node → Option Text
  | .file .. => none
  | .dir access entries => if access.read then barrierBelow? skipped access.enter path entries else some path

/-- The first such directory below the entries of the directory `path`; `enter` tells whether the way through that
directory is open. -/
def barrierBelow? (skipped : Text → Bool) (enter : Bool) (path : Text) : List (Text × Node) → Option Text
  | [] => none
  | (name, n) :: rest =>
    let barrier :=
      if n.isFile || skipped (Path.below path name) then none
      else if enter then barrier? skipped (Path.below path name) n
      else some (Path.below path name)
    barrier.or (barrierBelow? skipped enter path rest)

end

end Node

namespace Tree

/-- Why something cannot be done at a path. -/
inductive Fault where
  | missing
  | notDirectory
  | isDirectory
  | denied
  deriving DecidableEq

/-- The words for a fault. -/
def Fault.reason : Fault → Text
  | .missing => "no such file or directory"
  | .notDirectory => "not a directory"
  | .isDirectory => "is a directory"
  | .denied => "permission denied"

/-- What is said when an operation fails at a path. -/
def Fault.message (operation path : Text) (fault : Fault) : Text := operation ++ " " ++ path ++ ": " ++ fault.reason

/-- What is said when the file at a path cannot be read: a directory can be opened, but not read. -/
def Fault.readMessage (path : Text) : Fault → Text
  | .isDirectory => Fault.message "read" path .isDirectory
  | fault => fault.message "open" path

/-- The place of the working directory of a tree that is made from the files in it. -/
def workplace : List Text := ["work"]

/-- The tree with these files in its working directory. -/
def ofFiles (files : List (Text × Text)) : Tree := ⟨Node.empty.put workplace (.ofFiles files), workplace⟩

/-- The paths and contents of all files in the working directory, in the order of a walk. -/
def files (t : Tree) : List (Text × Text) := ((t.root.at? t.here).map (·.filesAt [])).getD []

/-! ## Paths -/

/-- Follows one component of a path from a place. The directory above the root is the root. -/
def follow (root : Node) (place : List Text) (component : Text) : Except Fault (List Text) :=
  match root.at? place with
  | none => .error .missing
  | some (.file ..) => .error .notDirectory
  | some (.dir access entries) =>
    if component.isEmpty then .ok place
    else if !access.enter then .error .denied
    else if component == Text.ofString "." then .ok place
    else if component == Text.ofString ".." then .ok place.dropLast
    else if (Node.child? entries component).isSome then .ok (place ++ [component])
    else .error .missing

/-- The place that a path leads to. -/
def locate (t : Tree) (path : Text) : Except Fault (List Text) :=
  if path.isEmpty then .error .missing
  else (path.pieces '/').foldlM (follow t.root) (if path.startsWith "/" then [] else t.here)

/-- The file or directory that a path leads to. -/
def find (t : Tree) (path : Text) : Except Fault Node := do
  match t.root.at? (← t.locate path) with
  | some n => return n
  | none => throw .missing

/-- Whether the path leads to a directory. -/
def isDir (t : Tree) (path : Text) : Bool :=
  match t.find path with
  | .ok n => !n.isFile
  | .error _ => false

/-- The content of the file that a path leads to. -/
def read (t : Tree) (path : Text) : Except Fault Text := do
  match ← t.find path with
  | .file access content => if access.read then return content else throw .denied
  | .dir access _ => throw (if access.read then .isDirectory else .denied)

/-! ## Writing -/

/-- The tree with something else at a place. -/
def put (t : Tree) (place : List Text) (leaf : Node) : Tree := { t with root := t.root.put place leaf }

/-- The tree with a new file at a path: its directory must be there already. -/
def create (t : Tree) (path content : Text) (access : Access) : Except Fault Tree := do
  let (dir, name) := Path.split path
  if name.isEmpty then throw (if dir.isEmpty then .missing else .isDirectory)
  let place ← t.locate (if dir.isEmpty then "." else dir)
  match t.root.at? place with
  | some (.dir parent _) =>
    if parent.write && parent.enter then return t.put (place ++ [name]) (.file access content) else throw .denied
  | _ => throw .notDirectory

/-- The tree with the content of the file at a path replaced. A file that is not there is made, with this access. -/
def write (t : Tree) (path content : Text) (access : Access) : Except Fault Tree :=
  match t.locate path with
  | .error .missing => t.create path content access
  | .error fault => .error fault
  | .ok place =>
    match t.root.at? place with
    | some (.file access _) => if access.write then .ok (t.put place (.file access content)) else .error .denied
    | some (.dir ..) => .error .isDirectory
    | none => .error .missing

end Tree

end HouseStyle
