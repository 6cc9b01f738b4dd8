import Mathlib.Data.List.Forall2
import GoIndex.Index
import GoIndex.Proofs.Source.Places

/-!
# What a scan of a tree gives

A scan of all source files has three outcomes, and `scanAll_eq` says which one comes when: the root
cannot be looked for, since a name on the way to it is too long; a file cannot be read; or the
catalog is the declarations of the files in walk order. A scan is never partly done.
-/

namespace GoIndex

/-- Whether the content of a file can be read. -/
def Content.isReadable : Content → Bool
  | .unreadable => false
  | .readable _ => true

/-- A walk through a list that fails in one way only succeeds when it fails nowhere. -/
theorem mapM_eq_ite {ε α β : Type} {f : α → Except ε β} {p : α → Bool} {g : α → β} {e : ε}
    (hf : ∀ x, f x = if p x then .ok (g x) else .error e) (xs : List α) :
    xs.mapM f = if xs.all p then .ok (xs.map g) else .error e := by
  induction xs with
  | nil => rfl
  | cons x xs ih =>
    rw [List.mapM_cons, ih, hf]
    by_cases hx : p x <;> by_cases hxs : xs.all p <;> simp [hx, hxs, bind, pure, Except.bind,
      Except.pure]

theorem map_eq_ok_iff {ε α β : Type} {x : Except ε α} {f : α → β} {b : β} :
    x.map f = .ok b ↔ ∃ a, x = .ok a ∧ f a = b := by
  cases x <;> simp [Except.map]

theorem map_eq_error_iff {ε α β : Type} {x : Except ε α} {f : α → β} {e : ε} :
    x.map f = .error e ↔ x = .error e := by
  cases x <;> simp [Except.map]

namespace Index

/-- The source files of the tree, in walk order. -/
def collected (index : Index) (tree : Node) : List SourceFile :=
  ((tree.at? index.root).map (Node.sourceFiles index.selection)).getD []

/-- What a scan of a source file says about where its lines come from. -/
def origin (index : Index) (file : SourceFile) : Source.Origin :=
  ⟨index.relativePath file, index.moduleOf file, index.settings.maxSignatureLines.toNat⟩

/-- The declarations in a source file; one that cannot be read has none. -/
def declarationsIn (index : Index) (file : SourceFile) : List Declaration :=
  (file.content.text?.map (Source.scan (index.origin file))).getD []

/-- The declarations in all source files of the tree, in walk order. -/
def snapshot (index : Index) (tree : Node) : Catalog :=
  (index.collected tree).flatMap index.declarationsIn

/-- A declaration names its file, and the module of its file. -/
theorem origin_of_mem_declarationsIn {index : Index} {file : SourceFile} {d : Declaration}
    (hd : d ∈ index.declarationsIn file) :
    d.sourceFile = index.relativePath file ∧ d.module = index.moduleOf file := by
  rw [declarationsIn] at hd
  cases htext : file.content.text? with
  | none => simp [htext] at hd
  | some text =>
    rw [htext] at hd
    exact Source.origin_of_mem_scan hd

theorem scanFile_eq (index : Index) (file : SourceFile) :
    index.scanFile file =
      if file.content.isReadable then .ok (index.declarationsIn file) else .error .unreadable := by
  obtain ⟨path, content⟩ := file
  cases content <;> rfl

/-- **The outcomes of a scan.** -/
theorem scanAll_eq (index : Index) (tree : Node) :
    index.scanAll tree =
      if tree.find index.root = .nameTooLong then .error (.unusable .nameTooLong)
      else if (index.collected tree).all (·.content.isReadable) then .ok (index.snapshot tree)
      else .error .unreadable := by
  rw [scanAll, sourceFiles]
  split
  · rfl
  · change (do return (← (index.collected tree).mapM index.scanFile).flatten) = _
    rw [mapM_eq_ite index.scanFile_eq]
    split
    · rw [snapshot, List.flatMap_def]
      rfl
    · rfl

/-- Whether the tree can be scanned: the root can be looked for, and every file can be read. -/
def scans (index : Index) (tree : Node) : Bool :=
  tree.find index.root != .nameTooLong && (index.collected tree).all (·.content.isReadable)

/-- A scan that can be made gives the snapshot. -/
theorem scanAll_of_scans {index : Index} {tree : Node} (h : index.scans tree) :
    index.scanAll tree = .ok (index.snapshot tree) := by
  rw [scans, Bool.and_eq_true, bne_iff_ne] at h
  rw [scanAll_eq, if_neg h.1, if_pos h.2]

/-- A scan that cannot be made fails. -/
theorem scanAll_of_not_scans {index : Index} {tree : Node} (h : index.scans tree = false) :
    ∃ fault, index.scanAll tree = .error fault := by
  rw [scanAll_eq]
  split
  · exact ⟨_, rfl⟩
  · rename_i hroot
    split
    · rename_i hfiles
      rw [scans, hfiles, Bool.and_true, bne_eq_false_iff_eq] at h
      exact absurd h hroot
    · exact ⟨_, rfl⟩

/-- The catalog of a scan is the snapshot. -/
theorem scanAll_eq_ok_iff {index : Index} {tree : Node} {catalog : Catalog} :
    index.scanAll tree = .ok catalog ↔ index.scans tree ∧ catalog = index.snapshot tree := by
  constructor
  · intro h
    cases hscans : index.scans tree with
    | false =>
      obtain ⟨fault, hfault⟩ := scanAll_of_not_scans hscans
      rw [hfault] at h
      cases h
    | true =>
      rw [scanAll_of_scans hscans] at h
      exact ⟨rfl, (Except.ok.inj h).symm⟩
  · rintro ⟨hscans, rfl⟩
    exact scanAll_of_scans hscans

theorem readFile_eq_error_iff {file : SourceFile} :
    readFile file = .error .unreadable ↔ file.content.isReadable = false := by
  obtain ⟨path, content⟩ := file
  cases content with
  | unreadable => exact ⟨fun _ => rfl, fun _ => rfl⟩
  | readable bytes => exact ⟨nofun, nofun⟩

/-- The source files of a tree whose root can be looked for. -/
theorem sourceFiles_of_find_ne {index : Index} {tree : Node}
    (h : tree.find index.root ≠ .nameTooLong) :
    index.sourceFiles tree = .ok (index.collected tree) :=
  if_neg h

/-- The snapshot is what the scans of the single files give, in walk order. -/
theorem exists_parts_of_scans {index : Index} {tree : Node} (h : index.scans tree) :
    ∃ files parts, index.sourceFiles tree = .ok files ∧
      List.Forall₂ (fun file part => index.scanFile file = .ok part) files parts ∧
        index.snapshot tree = parts.flatten := by
  rw [scans, Bool.and_eq_true, bne_iff_ne] at h
  obtain ⟨hroot, hfiles⟩ := h
  refine ⟨_, (index.collected tree).map index.declarationsIn, sourceFiles_of_find_ne hroot, ?_, ?_⟩
  · rw [List.forall₂_map_right_iff, List.forall₂_same]
    intro file hfile
    rw [scanFile_eq, if_pos (List.all_eq_true.mp hfiles file hfile)]
  · rw [snapshot, List.flatMap_def]

/-- A tree cannot be scanned exactly when its root cannot be looked for or one of its source files
cannot be read. -/
theorem scans_eq_false_iff {index : Index} {tree : Node} :
    index.scans tree = false ↔
      tree.find index.root = .nameTooLong ∨
        ∃ files, index.sourceFiles tree = .ok files ∧
          ∃ file ∈ files, readFile file = .error .unreadable := by
  rw [scans, Bool.and_eq_false_iff, bne_eq_false_iff_eq, List.all_eq_false]
  by_cases hroot : tree.find index.root = .nameTooLong
  · simp only [hroot, true_or]
  · simp only [hroot, false_or, sourceFiles_of_find_ne hroot, Except.ok.injEq, exists_eq_left',
      Bool.not_eq_true, readFile_eq_error_iff]

/-! ### The kept catalog -/

theorem consult_of_kept {index : Index} {catalog : Catalog} (h : index.kept = some catalog)
    (tree : Node) : index.consult tree = (index, .ok catalog) := by
  rw [consult, h]

theorem consult_of_ok {index : Index} {tree : Node} {catalog : Catalog} (h : index.kept = none)
    (hscan : index.scanAll tree = .ok catalog) :
    index.consult tree = (index.keep catalog, .ok catalog) := by
  simp only [consult, h, hscan]

theorem consult_of_error {index : Index} {tree : Node} {fault : Fault} (h : index.kept = none)
    (hscan : index.scanAll tree = .error fault) : index.consult tree = (index, .error fault) := by
  simp only [consult, h, hscan]

theorem catalog_of_kept {index : Index} {catalog : Catalog} (h : index.kept = some catalog)
    (tree : Node) : index.catalog tree = .ok catalog := by
  rw [Index.catalog, consult_of_kept h]

theorem catalog_of_kept_none {index : Index} (h : index.kept = none) (tree : Node) :
    index.catalog tree = index.scanAll tree := by
  rw [Index.catalog]
  cases hscan : index.scanAll tree with
  | error fault => rw [consult_of_error h hscan]
  | ok catalog => rw [consult_of_ok h hscan]

/-- An index that keeps what it keeps already is the same. -/
theorem keep_of_kept {index : Index} {catalog : Catalog} (h : index.kept = some catalog) :
    index.keep catalog = index := by
  rw [keep, ← h]

/-- **An index that gives its declarations keeps them.** -/
theorem fst_consult_of_ok {index : Index} {tree : Node} {catalog : Catalog}
    (h : index.catalog tree = .ok catalog) : (index.consult tree).1 = index.keep catalog := by
  cases hkept : index.kept with
  | some other =>
    rw [catalog_of_kept hkept] at h
    obtain rfl := Except.ok.inj h
    rw [consult_of_kept hkept, keep_of_kept hkept]
  | none =>
    rw [catalog_of_kept_none hkept] at h
    rw [consult_of_ok hkept h]

/-- **A scan that fails leaves nothing to keep.** -/
theorem fst_consult_of_error {index : Index} {tree : Node} {fault : Fault}
    (h : index.catalog tree = .error fault) : (index.consult tree).1 = index := by
  cases hkept : index.kept with
  | some catalog => rw [consult_of_kept hkept]
  | none =>
    rw [catalog_of_kept_none hkept] at h
    rw [consult_of_error hkept h]

end Index

end GoIndex
