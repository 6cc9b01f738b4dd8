import GoIndex.Declaration
import GoIndex.Text.Ascending
import GoIndex.Text.Lower

/-!
# Catalogs

A catalog is the declarations of a tree in the order in which a walk meets them. This module looks
declarations up by name and selects them by module and kind; names and modules are compared in lower
case, but an exact name goes before.
-/

namespace GoIndex

open Text

/-- Declarations in walk order. -/
abbrev Catalog := List Declaration

/-- At least one of `limit` elements is kept of a list: a limit below one counts as one. -/
def atMost {α : Type} (limit : Int) (xs : List α) : List α :=
  xs.take (max 1 limit).toNat

namespace Catalog

/-- The first declaration with a name, else the first with that name in another case. -/
def named? (catalog : Catalog) (name : String) : Option Declaration :=
  match List.find? (·.name == name) catalog with
  | some d => some d
  | none => List.find? (lower ·.name == lower name) catalog

/-- The declarations of a module, in any case. -/
def inModule (catalog : Catalog) (module : String) : Catalog :=
  List.filter (lower ·.module == lower module) catalog

/-- The declarations of a kind. -/
def ofKind (catalog : Catalog) (kind : Kind) : Catalog :=
  List.filter (·.kind == kind) catalog

/-- The interfaces. -/
def interfaces (catalog : Catalog) : Catalog :=
  catalog.ofKind .interface

/-- The constants and variables. -/
def values (catalog : Catalog) : Catalog :=
  List.filter (·.kind.isValue) catalog

/-- The functions and methods. -/
def callables (catalog : Catalog) : Catalog :=
  List.filter (·.kind.isCallable) catalog

/-- The modules that have declarations, ascending. -/
def modules (catalog : Catalog) : List String :=
  ascending (List.map (·.module) catalog)

end Catalog

end GoIndex
