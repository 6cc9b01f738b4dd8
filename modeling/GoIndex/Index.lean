import GoIndex.Catalog.Basic
import GoIndex.Fault
import GoIndex.Source.Imports
import GoIndex.Source.Scan
import GoIndex.Tree.SourceFile

/-!
# Indexes

An index belongs to the root of a project. It scans the source files on first use and keeps the
result: what is written to the tree later changes no answer about declarations. A scan that meets an
unreadable file fails as a whole and keeps nothing.

The list of source files and the imports of a module are read from the tree every time.
-/

namespace GoIndex

open Text

/-- An index: its root, its settings, and the declarations that it keeps. -/
structure Index where
  root : Path
  settings : ScanSettings
  kept : Option Catalog := none

namespace Index

/-- Opens an index for the project that a text leads to from a directory. -/
def openAt (tree : Node) (directory : Path) (text : String) (settings : ScanSettings) :
    Except Fault Index :=
  match tree.projectRoot directory text settings.rootMarker.fileName with
  | .ok root => .ok { root := root, settings := settings }
  | .error fault => .error (.unusable fault)

/-- Which files an index takes. -/
def selection (index : Index) : Selection where
  suffix := index.settings.sourceSuffix.fileName
  testSuffix := index.settings.testSuffix.fileName
  skipped := index.settings.skipDirs.map Letters.fileName

/-- The source files below the root, in walk order. A root that is not there has none, but one with
a name that is too long cannot even be looked for. -/
def sourceFiles (index : Index) (tree : Node) : Except Fault (List SourceFile) :=
  if tree.find index.root = .nameTooLong then .error (.unusable .nameTooLong)
  else .ok (((tree.at? index.root).map (Node.sourceFiles index.selection)).getD [])

/-- The path of a source file as seen from the root. -/
def relativePath (index : Index) (file : SourceFile) : String :=
  Path.relative index.root (index.root ++ file.path)

/-- The module of a source file. -/
def moduleOf (index : Index) (file : SourceFile) : String :=
  Path.moduleOf (index.relativePath file)

/-- The text of a source file. -/
def readFile (file : SourceFile) : Except Fault (List Char) :=
  match file.content.text? with
  | some text => .ok text
  | none => .error .unreadable

/-- The declarations in a source file. -/
def scanFile (index : Index) (file : SourceFile) : Except Fault (List Declaration) := do
  let text ← readFile file
  let origin : Source.Origin :=
    ⟨index.relativePath file, index.moduleOf file, index.settings.maxSignatureLines.toNat⟩
  return Source.scan origin text

/-- The declarations in all source files, in walk order. -/
def scanAll (index : Index) (tree : Node) : Except Fault Catalog := do
  return (← (← index.sourceFiles tree).mapM index.scanFile).flatten

/-- The index that keeps a catalog. -/
def keep (index : Index) (catalog : Catalog) : Index :=
  { index with kept := some catalog }

/-- The index after it has been asked for its declarations, and what it gives: those that it keeps,
else those of a scan. What a scan gives is kept from then on. -/
def consult (index : Index) (tree : Node) : Index × Except Fault Catalog :=
  match index.kept with
  | some catalog => (index, .ok catalog)
  | none =>
    match index.scanAll tree with
    | .ok catalog => (index.keep catalog, .ok catalog)
    | .error fault => (index, .error fault)

/-- The declarations of an index: the ones it keeps, or those of a scan. -/
def catalog (index : Index) (tree : Node) : Except Fault Catalog :=
  (index.consult tree).2

/-! ### Dependencies -/

/-- What a module imports and exports. Nothing is ever exported again. -/
structure Dependencies where
  module : String
  imports : List String
  exports : List String
  reExports : List String := []

/-- The imports of a source file, under its module. -/
def fileImports (index : Index) (file : SourceFile) : Except Fault (String × List String) := do
  return (index.moduleOf file, Source.imports (← readFile file))

/-- The dependencies of the modules that have files with these imports; a module exports the names
of its declarations. -/
def dependenciesOf (imports : List (String × List String)) (catalog : Catalog) :
    List Dependencies :=
  (ascending (imports.map (·.1))).map fun module =>
    { module := module
      imports := ascending ((imports.filter (·.1 == module)).flatMap (·.2))
      exports := ascending ((List.filter (·.module == module) catalog).map (·.name)) }

/-- The imports of all source files, each under its module. -/
def allImports (index : Index) (tree : Node) : Except Fault (List (String × List String)) := do
  (← index.sourceFiles tree).mapM index.fileImports

/-- The index after it has been asked for dependencies, and the dependencies of every module that
has a source file. The files are read before the declarations. -/
def dependencies (index : Index) (tree : Node) : Index × Except Fault (List Dependencies) :=
  match index.allImports tree with
  | .error fault => (index, .error fault)
  | .ok imports =>
    let (index, catalog) := index.consult tree
    (index, catalog.map (dependenciesOf imports))

end Index

end GoIndex
