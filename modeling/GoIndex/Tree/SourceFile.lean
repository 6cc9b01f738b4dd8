import GoIndex.Tree.Basic

/-!
# Source files

The walk through a directory that collects source files: first the files of the directory, then
those of each subdirectory in turn. Hidden entries and skipped directories are not entered, and test
files are left out. A file is taken by its name alone, and a directory that cannot be listed is
passed over in silence.
-/

namespace GoIndex

/-- Which files are source files, and which directories are entered. -/
structure Selection where
  suffix : String
  testSuffix : String
  skipped : List String

/-- Whether a name is hidden. -/
def isHidden (name : String) : Bool :=
  name.toList.head? == some '.'

/-- Whether a file is a source file by its name. -/
def Selection.takes (selection : Selection) (name : String) : Bool :=
  !isHidden name && selection.suffix.toList.isSuffixOf name.toList &&
    !selection.testSuffix.toList.isSuffixOf name.toList

/-- Whether a directory is entered. -/
def Selection.enters (selection : Selection) (name : String) : Bool :=
  !isHidden name && !selection.skipped.contains name

/-- A file below a directory, with its path from there. -/
structure SourceFile where
  path : Path
  content : Content

/-- The file as seen from the directory above, where `name` leads to it. -/
def SourceFile.below (name : String) (file : SourceFile) : SourceFile :=
  { file with path := name :: file.path }

namespace Node

/-- The source file that an entry is. -/
def sourceFile? (selection : Selection) : String × Node → Option SourceFile
  | (name, .file content) => if selection.takes name then some ⟨[name], content⟩ else none
  | _ => none

mutual

/-- The source files in a directory and below. -/
def sourceFiles (selection : Selection) : Node → List SourceFile
  | .directory entries => entries.filterMap (sourceFile? selection) ++ filesBelow selection entries
  | _ => []

/-- The source files below the subdirectories among entries. -/
def filesBelow (selection : Selection) : List (String × Node) → List SourceFile
  | [] => []
  | (name, node) :: entries =>
    (if selection.enters name then (node.sourceFiles selection).map (SourceFile.below name)
      else []) ++ filesBelow selection entries

end

end Node

end GoIndex
