import GoIndex.Command.Run

/-!
# The command line

Reads from disk what a run sees, hands it to `Command.World.display`, and prints the result. Only
what a run can look at is read: the variables file of the current directory, the settings files, the
entries of the start directory and of its parent, and the source files below the root of the index.
-/

namespace GoIndex

open Command

/-- The names of the variables that are looked for, besides those that the file of variables
mentions. -/
def variableNames : List String :=
  ["GOSCOPE_REPO_PATH", "GOSCOPE_LOG_LEVEL", "goscope_repo_path", "goscope_log_level"]

/-- The text of a path on disk. -/
def diskPath (path : Path) : String :=
  "/" ++ "/".intercalate path

/-- The content of a file on disk. -/
def readContent (path : String) : IO Content := do
  try
    return .readable (← IO.FS.readBinFile path).toList
  catch _ =>
    return .unreadable

/-- The file or the directory at a path on disk, without the entries of a directory. -/
def readNode? (path : Path) : IO (Option Node) := do
  match ← readContent (diskPath path) with
  | .unreadable =>
    try
      discard (← IO.FS.realPath (diskPath path)).readDir
      return some (.directory [])
    catch _ =>
      return none
  | content => return some (.file content)

/-- The tree with a file from disk, if the disk has it. -/
def addFile (tree : Node) (path : Path) : IO Node := do
  match ← readNode? path with
  | some (.file content) => return tree.write path content
  | some _ => return tree.makeDirectory path
  | none => return tree

/-- The names in a directory on disk, each with whether it is a directory to enter. -/
def readEntryNames (path : Path) : IO (List (String × Bool)) := do
  try
    let entries ← (← IO.FS.realPath (diskPath path)).readDir
    entries.toList.mapM fun entry => do
      let metadata ← entry.path.symlinkMetadata
      return (entry.fileName, metadata.type == .dir)
  catch _ =>
    return []

/-- The tree with the entries of a directory on disk, without what they hold. -/
def addEntries (tree : Node) (path : Path) : IO Node := do
  let mut result := tree
  for (name, isDirectory) in ← readEntryNames path do
    let entry := path ++ [name]
    if (result.at? entry).isNone then
      result :=
        if isDirectory then result.makeDirectory entry else result.write entry (.readable [])
  return result

/-- Whether the disk has something at a path. -/
def diskHas (path : Path) : IO Bool := do
  try
    discard (IO.FS.realPath (diskPath path))
    return true
  catch _ =>
    return false

/-- The tree with what a marker means in a directory, if the disk has it. -/
def addMarker (tree : Node) (path : Path) (marker : String) : IO Node := do
  if tree.holds path marker == .absent && (← diskHas (path.resolve marker)) then
    return tree.write (path.resolve marker) (.readable [])
  else
    return tree

/-- The tree with the source files below a directory on disk. -/
partial def addSourceFiles (selection : Selection) (tree : Node) (path : Path) : IO Node := do
  let mut result := tree
  for (name, isDirectory) in ← readEntryNames path do
    let entry := path ++ [name]
    if isDirectory then
      if selection.enters name then result ← addSourceFiles selection result entry
    else if selection.takes name then
      result := result.write entry (← readContent (diskPath entry))
  return result

/-- The world that a command line sees. -/
def readWorld (line : List String) : IO World := do
  let directory := Path.resolve [] (← IO.currentDir).toString
  let home := Path.resolve directory ((← IO.getEnv "HOME").getD "/")
  let userSettings ← readNode? (home ++ settingsFile)
  let variablesFile := directory ++ [".env"]
  let tree ← addFile ((Node.directory []).makeDirectory directory) variablesFile
  let mentioned := mentionedNames (((tree.contentAt? variablesFile).bind Content.text?).getD [])
  let assignments ← (mentioned ++ variableNames).filterMapM fun name => do
    return (← IO.getEnv name).map (name, ·)
  let world : World :=
    { tree := tree, directory := directory, assignments := assignments
      userSettings := userSettings }
  match world.environment, Arguments.parse? line with
  | .ok environment, some (.ok arguments) =>
    let start := startOf environment arguments
    let path := Path.resolve directory start
    let mut tree := tree
    for place in [path, path.parent] do
      tree ← addEntries tree place
      tree ← addFile tree (place ++ settingsFile)
    let world := { world with tree := tree }
    match world.settings start with
    | .error _ => return world
    | .ok settings =>
      for place in [path, path.parent] do
        tree ← addMarker tree place settings.scan.rootMarker.fileName
      match Index.openAt tree directory start settings.scan with
      | .error _ => return { world with tree := tree }
      | .ok index => return { world with tree := ← addSourceFiles index.selection tree index.root }
  | _, _ => return world

end GoIndex

/-- Runs a command line. -/
def main (line : List String) : IO UInt32 := do
  match (← GoIndex.readWorld line).display line with
  | .ok display =>
    IO.print display.output
    IO.eprint display.complaint
    return display.status.toUInt32
  | .error fault =>
    IO.eprintln fault.description
    return 1
