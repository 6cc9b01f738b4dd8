import GoIndex.Text.Utf8
import GoIndex.Tree.Path

/-!
# File trees

A node of a file tree is a file or a directory; a directory has its entries in ascending order of
their names, each name once. `update` and `remove?` keep it so.

Not everything in a tree can be read. A file may be no regular file, but a link that leads nowhere:
it is listed in its directory, and still it does not exist for one who looks for it. A directory may
be closed: what is in it can be found by its name, but not be listed.
-/

namespace GoIndex

open Text

/-! ### Nodes -/

/-- What a file holds, if it is a regular one. -/
inductive Content where
  | unreadable
  | readable (bytes : List UInt8)

/-- The text of a file, with a line feed for every line end. -/
def Content.text? : Content → Option (List Char)
  | .unreadable => none
  | .readable bytes => some (plainLineEnds (decode bytes))

/-- A file or a directory. A closed directory is one that cannot be listed. -/
inductive Node where
  | file (content : Content)
  | directory (entries : List (String × Node))
  | closed (entries : List (String × Node))

namespace Node

/-- The entries of a directory; a file has none. -/
def entries : Node → List (String × Node)
  | .file _ => []
  | .directory entries => entries
  | .closed entries => entries

/-- The node with other entries. A file gives way to a directory. -/
def withEntries (entries : List (String × Node)) : Node → Node
  | .closed _ => .closed entries
  | _ => .directory entries

/-- A directory stays what it is, and a file gives way to an empty one. -/
def asDirectory (node : Node) : Node :=
  node.withEntries node.entries

/-- Whether a node is a directory. -/
def isDirectory : Node → Bool
  | .file _ => false
  | _ => true

/-- Whether a node exists for one who looks for it. -/
def isPresent : Node → Bool
  | .file .unreadable => false
  | _ => true

/-- The node at a path. -/
def at? : Node → Path → Option Node
  | node, [] => some node
  | node, name :: path => (node.entries.lookup name).bind (at? · path)

/-- The content of the file at a path. -/
def contentAt? (node : Node) (path : Path) : Option Content :=
  match node.at? path with
  | some (.file content) => some content
  | _ => none

/-! ### Changes -/

/-- Entries with a node put under a name, in the place that the order gives it. -/
def put (name : String) (node : Node) : List (String × Node) → List (String × Node)
  | [] => [(name, node)]
  | entry :: entries =>
    if name < entry.1 then (name, node) :: entry :: entries
    else if name = entry.1 then (name, node) :: entries
    else entry :: put name node entries

/-- The tree with the node at a path changed. Directories on the way are made; a file on the way
gives way to one. -/
def update (change : Option Node → Node) : Path → Option Node → Node
  | [], node => change node
  | name :: path, node =>
    let node := node.getD (.directory [])
    node.withEntries (put name (update change path (node.entries.lookup name)) node.entries)

/-- The tree with a file written. -/
def write (tree : Node) (path : Path) (content : Content) : Node :=
  update (fun _ => .file content) path (some tree)

/-- The tree with a directory made, if it is not there. -/
def makeDirectory (tree : Node) (path : Path) : Node :=
  update (fun node => asDirectory (node.getD (.directory []))) path (some tree)

/-- The tree without the node at a path; none when there is no such node. The root stays. -/
def remove? : Path → Node → Option Node
  | [], _ => none
  | [name], node =>
    (node.entries.lookup name).map fun _ => node.withEntries (node.entries.filter (·.1 != name))
  | name :: path, node => do
    let below ← remove? path (← node.entries.lookup name)
    some (node.withEntries (put name below node.entries))

/-! ### Looking for a node -/

/-- What comes of looking for a node. -/
inductive Finding where
  | present
  | absent
  | nameTooLong
  deriving DecidableEq, Repr

/-- What a walk along names from a directory ends at. Every node on the way has to be a directory,
also the one that two dots leave, and a name is too long only where it is looked for. -/
def reaches (tree : Node) (path : Path) : List String → Finding
  | [] => if (tree.at? path).any isPresent then .present else .absent
  | name :: names =>
    if !(tree.at? path).any isDirectory then .absent
    else if maxName < name.utf8ByteSize then .nameTooLong
    else reaches tree (path.step name) names

/-- What comes of looking for a node along names from the root directory. -/
def find (tree : Node) (names : List String) : Finding :=
  if maxPath < textLength names then .nameTooLong else tree.reaches [] names

/-- What comes of looking for what a text means in a directory. -/
def holds (tree : Node) (directory : Path) (text : String) : Finding :=
  if hasNull text then .absent
  else tree.find ((if Path.isAbsolute text then [] else directory) ++ Path.names text)

/-- The root of the project that a text leads to from a directory: the path that the text means, or
its parent, whichever holds the marker, else the path. -/
def projectRoot (tree : Node) (directory : Path) (text marker : String) : Except PathFault Path :=
  if hasNull text then .error .nullCharacter
  else
    let path := Path.resolve directory text
    match tree.holds path marker, tree.holds path.parent marker with
    | .present, _ => .ok path
    | .nameTooLong, _ => .error .nameTooLong
    | .absent, .present => .ok path.parent
    | .absent, .nameTooLong => .error .nameTooLong
    | .absent, .absent => .ok path

end Node

end GoIndex
