import GoIndex.Text.Lines

/-!
# Paths

A path is the list of names on the way from the root directory. Text is read as a path from a
starting directory: empty names and single dots stand for nothing, two dots go up, and a slash at
the start begins at the root. Going up from the root stays there.

A file system takes no path with a null character, and no name that is too long.
-/

namespace GoIndex

open Text

/-- The names on the way from the root directory. -/
abbrev Path := List String

namespace Path

/-- The names in the text of a path, without those that stand for nothing. -/
def names (text : String) : List String :=
  ((text.toList.splitOn '/').map String.ofList).filter fun name => name != "" && name != "."

/-- Whether the text of a path begins at the root directory. -/
def isAbsolute (text : String) : Bool :=
  text.toList.head? == some '/'

/-- The path after one more name. -/
def step (path : Path) (name : String) : Path :=
  if name = ".." then path.dropLast else path ++ [name]

/-- The path that a text means in a directory. -/
def resolve (directory : Path) (text : String) : Path :=
  (names text).foldl step (if isAbsolute text then [] else directory)

/-- The directory that holds a path. -/
def parent (path : Path) : Path :=
  path.dropLast

/-- The names of two paths behind the directories that they share. -/
def apart : Path → Path → Path × Path
  | a :: as, b :: bs => if a = b then apart as bs else (a :: as, b :: bs)
  | as, bs => (as, bs)

/-- The text of a path as seen from a directory. -/
def relative (directory path : Path) : String :=
  let (up, down) := apart directory path
  match up.map (fun _ => "..") ++ down with
  | [] => "."
  | steps => joinWith "/" steps

/-- The module of files that stand in no directory of their own. -/
def rootModule : String := "root"

/-- The module of a relative path: its first directory. -/
def moduleOf (relative : String) : String :=
  match relative.toList.splitOn '/' with
  | first :: _ :: _ => String.ofList first
  | _ => rootModule

end Path

/-! ### Paths that cannot be used -/

/-- Why a path cannot be used. -/
inductive PathFault where
  | nullCharacter
  | nameTooLong
  deriving DecidableEq, Repr

/-- What is said about a fault. -/
def PathFault.message : PathFault → String
  | .nullCharacter => "embedded null byte"
  | .nameTooLong => "File name too long"

/-- The length of the longest name, in bytes. -/
def maxName : Nat := 255

/-- The length of the longest text of a path, in bytes. -/
def maxPath : Nat := 4095

/-- Whether the text of a path has a null character. -/
def hasNull (text : String) : Bool :=
  text.toList.contains (Char.ofNat 0)

/-- The length of the text of a path from the root directory, in bytes. -/
def textLength (names : List String) : Nat :=
  names.foldr (fun name sum => name.utf8ByteSize + 1 + sum) 0

end GoIndex
