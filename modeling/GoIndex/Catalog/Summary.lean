import GoIndex.Catalog.Basic

/-!
# Summaries

Counts by kind, the most interesting declarations of a module, and the statistics of a whole
catalog. An unknown module has no declarations; it is no error.
-/

namespace GoIndex

open Text

/-! ### Counts and interest -/

/-- How many declarations there are of each kind. -/
abbrev Counts := Kind → Nat

/-- The counts of a catalog. -/
def Catalog.counts (catalog : Catalog) : Counts :=
  fun kind => List.countP (·.kind == kind) catalog

/-- Names up to this length are short. -/
def shortName : Nat := 24

/-- How interesting a declaration is: documentation, a callable or composite kind and a short name
each add to it. -/
def Declaration.interest (d : Declaration) : Nat :=
  (if d.documentation.any (!·.isEmpty) then 2 else 0) +
    (if d.kind.isCallable then 4 else 0) +
    (if d.kind.isComposite then 3 else 0) +
    (if d.name.length ≤ shortName then 1 else 0)

/-- Whether a declaration may stand before another among highlights. -/
def Declaration.outshines (a b : Declaration) : Bool :=
  b.interest < a.interest || (a.interest == b.interest && a.name ≤ b.name)

/-! ### Modules -/

/-- The counts of a module. -/
structure ModuleStatistics where
  module : String
  counts : Counts
  total : Nat

/-- The statistics of declarations under a module name. -/
def ModuleStatistics.of (module : String) (catalog : Catalog) : ModuleStatistics :=
  ⟨module, catalog.counts, List.length catalog⟩

/-- What stands out in a module. -/
structure ModuleSummary where
  module : String
  total : Nat
  counts : Counts
  files : List String
  highlights : List Declaration

/-- The statistics of a module. -/
def Catalog.statistics (catalog : Catalog) (module : String) : ModuleStatistics :=
  .of module (catalog.inModule module)

/-- The summary of a module with at most so many highlights. -/
def Catalog.summary (catalog : Catalog) (module : String) (limit : Int) : ModuleSummary :=
  let own := catalog.inModule module
  { module := module
    total := List.length own
    counts := own.counts
    files := ascending (List.map (·.sourceFile) own)
    highlights := atMost limit (List.mergeSort own Declaration.outshines) }

/-! ### The whole catalog -/

/-- The statistics of a catalog and its first names of three groups of kinds. -/
structure LibraryStatistics where
  total : Nat
  counts : Counts
  modules : List ModuleStatistics
  topInterfaces : List String
  topTypes : List String
  topFunctions : List String

/-- The first names in ascending order, repetitions kept. -/
def Catalog.firstNames (catalog : Catalog) (count : Nat) : List String :=
  (sorted (List.map (·.name) catalog)).take count

/-- The statistics of a catalog. -/
def Catalog.libraryStatistics (catalog : Catalog) : LibraryStatistics where
  total := List.length catalog
  counts := catalog.counts
  modules := catalog.modules.map fun m => .of m (List.filter (·.module == m) catalog)
  topInterfaces := catalog.interfaces.firstNames 15
  topTypes := Catalog.firstNames
    (List.filter (fun d => d.kind == .type || d.kind == .struct) catalog) 20
  topFunctions := catalog.callables.firstNames 20

end GoIndex
