import GoIndex.Proofs.Index.Scan

/-!
# What a report on dependencies says

A report joins two sources that may differ in age: the source files as they are, and the catalog
that the index keeps. `Reports` says what becomes of them. The files decide which modules there are
and what they import; the catalog decides what they export, and a module of the catalog that has no
file any more is left out.

Where both come from the same tree, nothing is left out (`Reports.of_snapshot`), since a declaration
belongs to the module of the file that it stands in.
-/

namespace GoIndex.Index

open Text

variable {index : Index}

/-! ### When there is a report -/

/-- The imports in a source file; one that cannot be read has none. -/
def importsIn (file : SourceFile) : List String :=
  (file.content.text?.map Source.imports).getD []

/-- The imports of the source files of the tree, each under its module. -/
def importsOf (index : Index) (files : List SourceFile) : List (String × List String) :=
  files.map fun file => (index.moduleOf file, importsIn file)

theorem fileImports_eq (index : Index) (file : SourceFile) :
    index.fileImports file =
      if file.content.isReadable then .ok (index.moduleOf file, importsIn file)
      else .error .unreadable := by
  obtain ⟨path, content⟩ := file
  cases content <;> rfl

/-- The imports can be read when the tree can be scanned. -/
theorem allImports_eq_ok_iff {tree : Node} {imports : List (String × List String)} :
    index.allImports tree = .ok imports ↔
      index.scans tree ∧ imports = index.importsOf (index.collected tree) := by
  by_cases hroot : tree.find index.root = .nameTooLong
  · have hfiles : index.sourceFiles tree = .error (.unusable .nameTooLong) := if_pos hroot
    have hscans : index.scans tree = false := by simp [scans, hroot]
    simp [allImports, hfiles, hscans, bind, Except.bind]
  · have hscans : index.scans tree = (index.collected tree).all (·.content.isReadable) := by
      simp [scans, hroot]
    have hread : index.allImports tree = (index.collected tree).mapM index.fileImports := by
      rw [allImports, sourceFiles_of_find_ne hroot]
      rfl
    rw [hread, mapM_eq_ite index.fileImports_eq, hscans]
    cases (index.collected tree).all (·.content.isReadable) with
    | false => simp
    | true => simp [importsOf, eq_comm]

theorem dependencies_of_ok {tree : Node} {imports : List (String × List String)}
    (h : index.allImports tree = .ok imports) :
    index.dependencies tree =
      ((index.consult tree).1, (index.catalog tree).map (dependenciesOf imports)) := by
  simp only [dependencies, h]
  rfl

theorem dependencies_of_error {tree : Node} {fault : Fault}
    (h : index.allImports tree = .error fault) :
    index.dependencies tree = (index, .error fault) := by
  simp only [dependencies, h]

/-- **When there is a report**: the tree can be scanned, be it that the catalog is kept from
another one. That catalog is kept from then on. -/
theorem of_dependencies_eq_ok {tree : Node} {deps : List Dependencies}
    (h : (index.dependencies tree).2 = .ok deps) :
    index.scans tree ∧ ∃ catalog, index.catalog tree = .ok catalog ∧
      deps = dependenciesOf (index.importsOf (index.collected tree)) catalog ∧
      (index.dependencies tree).1 = index.keep catalog := by
  cases himports : index.allImports tree with
  | error fault =>
    rw [dependencies_of_error himports] at h
    cases h
  | ok imports =>
    obtain ⟨hscans, rfl⟩ := allImports_eq_ok_iff.mp himports
    rw [dependencies_of_ok himports] at h ⊢
    cases hcatalog : index.catalog tree with
    | error fault =>
      rw [hcatalog] at h
      cases h
    | ok catalog =>
      rw [hcatalog] at h
      exact ⟨hscans, catalog, rfl, (Except.ok.inj h).symm, fst_consult_of_ok hcatalog⟩

/-- Without a report nothing new is kept. -/
theorem fst_dependencies_of_error {tree : Node} {fault : Fault}
    (h : (index.dependencies tree).2 = .error fault) : (index.dependencies tree).1 = index := by
  cases himports : index.allImports tree with
  | error other => rw [dependencies_of_error himports]
  | ok imports =>
    rw [dependencies_of_ok himports] at h ⊢
    cases hcatalog : index.catalog tree with
    | error other => exact fst_consult_of_error hcatalog
    | ok catalog =>
      rw [hcatalog] at h
      cases h

/-! ### What a report says -/

/-- What a report on some files and a catalog says: the modules that have a file, in strictly
ascending order; for each module what its files import and what the catalog declares in it, without
repetitions and in strictly ascending order. -/
structure Reports (index : Index) (files : List SourceFile) (catalog : Catalog)
    (deps : List Dependencies) : Prop where
  pairwise_modules : (deps.map (·.module)).Pairwise (· < ·)
  mem_modules : ∀ module, module ∈ deps.map (·.module) ↔
    ∃ file ∈ files, index.moduleOf file = module
  pairwise_imports : ∀ r ∈ deps, r.imports.Pairwise (· < ·)
  mem_imports : ∀ r ∈ deps, ∀ path, path ∈ r.imports ↔
    ∃ file ∈ files, index.moduleOf file = r.module ∧
      ∃ text, readFile file = .ok text ∧ path ∈ Source.imports text
  pairwise_exports : ∀ r ∈ deps, r.exports.Pairwise (· < ·)
  mem_exports : ∀ r ∈ deps, ∀ name, name ∈ r.exports ↔
    ∃ d ∈ catalog, d.module = r.module ∧ d.name = name

theorem mem_importsIn_iff {file : SourceFile} {path : String} :
    path ∈ importsIn file ↔ ∃ text, readFile file = .ok text ∧ path ∈ Source.imports text := by
  rw [importsIn, readFile]
  cases file.content.text? with
  | none => simp
  | some text => simp

theorem map_module_dependenciesOf (imports : List (String × List String)) (catalog : Catalog) :
    (dependenciesOf imports catalog).map (·.module) = ascending (imports.map (·.1)) := by
  rw [dependenciesOf, List.map_map]
  exact List.map_id _

/-- The report on some files and a catalog says what it should. -/
theorem reports_dependenciesOf (index : Index) (files : List SourceFile) (catalog : Catalog) :
    index.Reports files catalog (dependenciesOf (index.importsOf files) catalog) where
  pairwise_modules := by
    rw [map_module_dependenciesOf]
    exact pairwise_ascending _
  mem_modules module := by
    simp [map_module_dependenciesOf, importsOf]
  pairwise_imports r hr := by
    obtain ⟨module, -, rfl⟩ := List.mem_map.mp hr
    exact pairwise_ascending _
  mem_imports r hr path := by
    obtain ⟨module, -, rfl⟩ := List.mem_map.mp hr
    simp only [mem_ascending, importsOf, List.mem_flatMap, List.mem_filter, List.mem_map,
      beq_iff_eq, ← mem_importsIn_iff]
    constructor
    · rintro ⟨_, ⟨⟨file, hfile, rfl⟩, hmodule⟩, hpath⟩
      exact ⟨file, hfile, hmodule, hpath⟩
    · rintro ⟨file, hfile, hmodule, hpath⟩
      exact ⟨_, ⟨⟨file, hfile, rfl⟩, hmodule⟩, hpath⟩
  pairwise_exports r hr := by
    obtain ⟨module, -, rfl⟩ := List.mem_map.mp hr
    exact pairwise_ascending _
  mem_exports r hr name := by
    obtain ⟨module, -, rfl⟩ := List.mem_map.mp hr
    simp only [mem_ascending, List.mem_map, List.mem_filter, beq_iff_eq, and_assoc]

/-! ### Files and catalog of one tree -/

/-- A report on the files of a tree and the catalog of the same tree has a place for every
declaration. -/
theorem Reports.of_snapshot {tree : Node} {deps : List Dependencies}
    (h : index.Reports (index.collected tree) (index.snapshot tree) deps) {d : Declaration}
    (hd : d ∈ index.snapshot tree) : ∃ r ∈ deps, r.module = d.module ∧ d.name ∈ r.exports := by
  obtain ⟨file, hfile, hdecl⟩ := List.mem_flatMap.mp hd
  have hmodule := (origin_of_mem_declarationsIn hdecl).2
  have hreported : d.module ∈ deps.map (·.module) :=
    (h.mem_modules d.module).mpr ⟨file, hfile, hmodule.symm⟩
  obtain ⟨r, hr, hrmodule⟩ := List.mem_map.mp hreported
  exact ⟨r, hr, hrmodule, (h.mem_exports r hr d.name).mpr ⟨d, hd, hrmodule.symm, rfl⟩⟩

end GoIndex.Index
