import GoIndex.Catalog.Ranking
import GoIndex.Catalog.Relations
import GoIndex.Catalog.Summary
import GoIndex.Index

/-!
# Sessions

A session is a tree and an index over it. Its steps change the tree, open another index, look at the
files, or ask about declarations. A question is answered from a catalog alone; the first one that is
answered makes the index keep its catalog. A step leaves a session behind, be it that it fails.
-/

namespace GoIndex

/-! ### Questions about declarations -/

/-- A question about declarations. -/
inductive Query where
  | all
  | named (name : String)
  | inModule (module : String)
  | ofKind (kind : Kind)
  | interfaces
  | values
  | callables
  | modules
  | search (query : String) (limit : Int) (scope : Scope)
  | suggestions (query : String) (limit : Int)
  | topic (topic : String) (limit : Int)
  | summary (module : String) (limit : Int)
  | statistics (module : String)
  | libraryStatistics
  | relations (name : String)

/-- An answer to a question. -/
inductive Answer where
  | declarations (declarations : List Declaration)
  | declaration? (declaration : Option Declaration)
  | names (names : List String)
  | hits (hits : List Hit)
  | topic (topic : Topic)
  | summary (summary : ModuleSummary)
  | statistics (statistics : ModuleStatistics)
  | libraryStatistics (statistics : LibraryStatistics)
  | relations? (relations : Option Relations)

/-- The declarations that a search finds. -/
def Catalog.suggestions (catalog : Catalog) (query : String) (limit : Int) : List Declaration :=
  (catalog.search query limit {}).map (·.declaration)

/-- The answer that a catalog gives. -/
def Query.answer (catalog : Catalog) : Query → Answer
  | .all => .declarations catalog
  | .named name => .declaration? (catalog.named? name)
  | .inModule module => .declarations (catalog.inModule module)
  | .ofKind kind => .declarations (catalog.ofKind kind)
  | .interfaces => .declarations catalog.interfaces
  | .values => .declarations catalog.values
  | .callables => .declarations catalog.callables
  | .modules => .names catalog.modules
  | .search query limit scope => .hits (catalog.search query limit scope)
  | .suggestions query limit => .declarations (catalog.suggestions query limit)
  | .topic about limit => .topic (catalog.topic about limit)
  | .summary module limit => .summary (catalog.summary module limit)
  | .statistics module => .statistics (catalog.statistics module)
  | .libraryStatistics => .libraryStatistics catalog.libraryStatistics
  | .relations name => .relations? (catalog.relations? name)

/-! ### Steps -/

/-- A tree and an index over it. -/
structure Session where
  tree : Node
  index : Index

/-- A step of a session. -/
inductive Step where
  | write (path : Path) (content : Content)
  | makeDirectory (path : Path)
  | remove (path : Path)
  | openIndex (directory : Path) (text : String) (settings : Checked ScanSettings)
  | root
  | sourceFiles
  | ask (query : Query)
  | dependencies

/-- What a step gives. -/
inductive Reply where
  | done
  | root (path : Path)
  | files (paths : List String)
  | answer (answer : Answer)
  | dependencies (dependencies : List Index.Dependencies)

namespace Session

/-- The session after a step, and what the step gives. -/
def step (session : Session) : Step → Session × Except Fault Reply
  | .write path content => ({ session with tree := session.tree.write path content }, .ok .done)
  | .makeDirectory path => ({ session with tree := session.tree.makeDirectory path }, .ok .done)
  | .remove path =>
    match session.tree.remove? path with
    | some tree => ({ session with tree := tree }, .ok .done)
    | none => (session, .error .unreadable)
  | .openIndex directory text (.ok settings) =>
    match Index.openAt session.tree directory text settings with
    | .ok index => ({ session with index := index }, .ok (.root index.root))
    | .error fault => (session, .error fault)
  | .openIndex _ _ (.error issues) => (session, .error (.invalid issues))
  | .root => (session, .ok (.root session.index.root))
  | .sourceFiles =>
    let files := session.index.sourceFiles session.tree
    (session, files.map fun files => .files (files.map session.index.relativePath))
  | .ask query =>
    let (index, catalog) := session.index.consult session.tree
    ({ session with index := index }, catalog.map fun catalog => .answer (query.answer catalog))
  | .dependencies =>
    let (index, dependencies) := session.index.dependencies session.tree
    ({ session with index := index }, dependencies.map .dependencies)

/-- What the steps of a session give, in order. -/
def run (session : Session) : List Step → List (Except Fault Reply)
  | [] => []
  | s :: steps => (session.step s).2 :: (session.step s).1.run steps

end Session

end GoIndex
