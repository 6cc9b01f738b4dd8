import Mathlib.Data.List.Nodup
import GoIndex.Tree.SourceFile

/-!
# The files that a walk collects

In a well-formed tree a directory has each name once, and no name has a slash in it; the order of
the names is left open. A walk through such a tree collects exactly the files that a selection takes
by their paths and that it can get to (`mem_sourceFiles_iff`), each of them once
(`nodup_path_sourceFiles`). It gets to a file when all directories on the way can be listed
(`Node.Lists`).

So the order in which directories list their entries changes the order of the files and nothing
else: two trees with the same files and directories at the same paths have the same source files up
to order (`sourceFiles_perm`).
-/

namespace GoIndex

/-! ### Well-formed trees -/

/-- Every directory has each name once, and no name has a slash in it. -/
inductive Node.WellFormed : Node → Prop where
  | intro {node : Node} (distinct : (node.entries.map Prod.fst).Nodup)
      (slashFree : ∀ entry ∈ node.entries, '/' ∉ entry.1.toList)
      (below : ∀ entry ∈ node.entries, WellFormed entry.2) : WellFormed node

/-- Under distinct names, looking a name up finds the entry with that name. -/
theorem lookup_eq_some_iff_mem {entries : List (String × Node)}
    (distinct : (entries.map Prod.fst).Nodup) {name : String} {node : Node} :
    entries.lookup name = some node ↔ (name, node) ∈ entries := by
  induction entries with
  | nil => simp
  | cons entry entries ih =>
    obtain ⟨first, child⟩ := entry
    rw [List.map_cons, List.nodup_cons] at distinct
    obtain ⟨hfirst, hrest⟩ := distinct
    by_cases hname : name = first
    · subst hname
      have hnot : (name, node) ∉ entries := fun hmem =>
        hfirst (List.mem_map.mpr ⟨(name, node), hmem, rfl⟩)
      simp [hnot, eq_comm]
    · have hbeq : (name == first) = false := beq_eq_false_iff_ne.mpr hname
      simp [List.lookup_cons, hbeq, ih hrest, hname]

theorem Node.at?_append (node : Node) (path rest : Path) :
    node.at? (path ++ rest) = (node.at? path).bind (·.at? rest) := by
  induction path generalizing node with
  | nil => rfl
  | cons name path ih =>
    rw [List.cons_append, at?, at?, Option.bind_assoc]
    exact congrArg _ (funext fun below => ih below)

/-- What stands in a well-formed tree is well formed. -/
theorem Node.WellFormed.of_at? {tree node : Node} {path : Path} (h : tree.WellFormed)
    (hat : tree.at? path = some node) : node.WellFormed := by
  induction path generalizing tree with
  | nil =>
    obtain rfl : tree = node := Option.some.inj hat
    exact h
  | cons name path ih =>
    obtain ⟨child, hchild, hbelow⟩ := Option.bind_eq_some_iff.mp hat
    obtain ⟨distinct, slashFree, below⟩ := h
    exact ih (below _ ((lookup_eq_some_iff_mem distinct).mp hchild)) hbelow

/-! ### Paths that a selection takes -/

/-- Whether a selection enters every directory of a path and takes the file at its end. -/
def Selection.takesPath (selection : Selection) : Path → Bool
  | [] => false
  | [name] => selection.takes name
  | name :: next :: path => selection.enters name && takesPath selection (next :: path)

namespace Node

variable {selection : Selection}

theorem filesBelow_eq_flatMap (selection : Selection) (entries : List (String × Node)) :
    filesBelow selection entries = entries.flatMap fun entry =>
      if selection.enters entry.1 then
        (entry.2.sourceFiles selection).map (SourceFile.below entry.1)
      else [] := by
  induction entries with
  | nil => rfl
  | cons entry entries ih => rw [filesBelow, ih, List.flatMap_cons]

/-- A file of a directory itself is one of its entries. -/
theorem mem_filterMap_sourceFile?_iff {entries : List (String × Node)} {file : SourceFile} :
    file ∈ entries.filterMap (sourceFile? selection) ↔
      ∃ name, file.path = [name] ∧ selection.takes name ∧
        (name, Node.file file.content) ∈ entries := by
  rw [List.mem_filterMap]
  constructor
  · rintro ⟨⟨name, node⟩, hmem, hfile⟩
    cases node with
    | directory below | closed below => simp [sourceFile?] at hfile
    | file content =>
      rw [sourceFile?, Option.ite_none_right_eq_some] at hfile
      obtain ⟨htakes, hfile⟩ := hfile
      obtain rfl := Option.some.inj hfile
      exact ⟨name, rfl, htakes, hmem⟩
  · rintro ⟨name, hpath, htakes, hmem⟩
    obtain ⟨path, content⟩ := file
    obtain rfl : path = [name] := hpath
    exact ⟨_, hmem, by rw [sourceFile?, if_pos htakes]⟩

/-- A file further below is a file of a directory that is entered. -/
theorem mem_filesBelow_iff {entries : List (String × Node)} {file : SourceFile} :
    file ∈ filesBelow selection entries ↔
      ∃ name node path, (name, node) ∈ entries ∧ selection.enters name ∧
        file.path = name :: path ∧ ⟨path, file.content⟩ ∈ node.sourceFiles selection := by
  rw [filesBelow_eq_flatMap, List.mem_flatMap]
  constructor
  · rintro ⟨⟨name, node⟩, hmem, hfile⟩
    split at hfile
    · obtain ⟨inner, hinner, rfl⟩ := List.mem_map.mp hfile
      exact ⟨name, node, inner.path, hmem, by assumption, rfl, hinner⟩
    · exact absurd hfile List.not_mem_nil
  · rintro ⟨name, node, path, hmem, henters, hpath, hinner⟩
    obtain ⟨whole, content⟩ := file
    obtain rfl : whole = name :: path := hpath
    refine ⟨(name, node), hmem, ?_⟩
    rw [if_pos henters]
    exact List.mem_map.mpr ⟨⟨path, content⟩, hinner, rfl⟩

/-- The content of a file in a directory is found through the entry that leads to it. -/
theorem contentAt?_cons (node : Node) (name : String) (path : Path) :
    node.contentAt? (name :: path) =
      (node.entries.lookup name).bind (·.contentAt? path) := by
  rw [contentAt?, at?]
  cases node.entries.lookup name <;> rfl

theorem contentAt?_nil_eq_some_iff {node : Node} {content : Content} :
    node.contentAt? [] = some content ↔ node = .file content := by
  cases node <;> simp [contentAt?, at?]

/-- Every directory on a path can be listed, from the first one to the last. -/
def Lists (node : Node) (directories : Path) : Prop :=
  ∀ front, front <+: directories → ∃ entries, node.at? front = some (.directory entries)

theorem lists_nil_iff {node : Node} : node.Lists [] ↔ ∃ entries, node = .directory entries := by
  constructor
  · intro h
    obtain ⟨entries, hentries⟩ := h [] List.nil_prefix
    exact ⟨entries, Option.some.inj hentries⟩
  · rintro ⟨entries, rfl⟩ front hfront
    obtain rfl := List.prefix_nil.mp hfront
    exact ⟨entries, rfl⟩

theorem Lists.eq_directory {node : Node} {directories : Path} (h : node.Lists directories) :
    ∃ entries, node = .directory entries :=
  lists_nil_iff.mp fun front hfront => h front (List.prefix_nil.mp hfront ▸ List.nil_prefix)

/-- A path is listed when its first directory is, and the rest of it from there. -/
theorem lists_directory_cons_iff {entries : List (String × Node)} {name : String}
    {directories : Path} :
    (directory entries).Lists (name :: directories) ↔
      ∃ child, entries.lookup name = some child ∧ child.Lists directories := by
  constructor
  · intro h
    obtain ⟨inner, hinner⟩ := h [name] (List.cons_prefix_cons.mpr ⟨rfl, List.nil_prefix⟩)
    obtain ⟨child, hchild, -⟩ := Option.bind_eq_some_iff.mp hinner
    refine ⟨child, hchild, fun front hfront => ?_⟩
    obtain ⟨found, hfound⟩ := h (name :: front) (List.cons_prefix_cons.mpr ⟨rfl, hfront⟩)
    refine ⟨found, ?_⟩
    rwa [at?, hchild, Option.bind_some] at hfound
  · rintro ⟨child, hchild, h⟩ front hfront
    cases front with
    | nil => exact ⟨entries, rfl⟩
    | cons first front =>
      obtain ⟨rfl, hrest⟩ := List.cons_prefix_cons.mp hfront
      obtain ⟨found, hfound⟩ := h front hrest
      refine ⟨found, ?_⟩
      rw [at?, Node.entries, hchild, Option.bind_some, hfound]

/-- A walk collects nothing from what is no directory, or cannot be listed. -/
theorem sourceFiles_eq_nil {node : Node} (h : ∀ entries, node ≠ .directory entries) :
    node.sourceFiles selection = [] := by
  cases node with
  | directory entries => exact absurd rfl (h entries)
  | file content | closed entries => rfl

theorem eq_directory_of_mem_sourceFiles {node : Node} {file : SourceFile}
    (hfile : file ∈ node.sourceFiles selection) : ∃ entries, node = .directory entries := by
  by_contra hnot
  rw [sourceFiles_eq_nil fun entries heq => hnot ⟨entries, heq⟩] at hfile
  exact List.not_mem_nil hfile

/-- **What a walk collects**: the files whose paths the selection takes and that lie in directories
which can be listed. -/
theorem mem_sourceFiles_iff {node : Node} (h : node.WellFormed) {file : SourceFile} :
    file ∈ node.sourceFiles selection ↔
      selection.takesPath file.path ∧ node.contentAt? file.path = some file.content ∧
        node.Lists file.path.dropLast := by
  induction h generalizing file with
  | @intro node distinct slashFree below ih =>
    by_cases hnode : ∃ entries, node = .directory entries
    case neg =>
      refine iff_of_false (fun hfile => hnode (eq_directory_of_mem_sourceFiles hfile)) ?_
      exact fun hright => hnode hright.2.2.eq_directory
    obtain ⟨entries, rfl⟩ := hnode
    rw [sourceFiles, List.mem_append, mem_filterMap_sourceFile?_iff, mem_filesBelow_iff]
    obtain ⟨path, content⟩ := file
    -- a path of one name leads to an entry, a longer one into a subdirectory
    cases path with
    | nil => simp [Selection.takesPath]
    | cons name path =>
      rw [contentAt?_cons, Option.bind_eq_some_iff]
      cases path with
      | nil =>
        have hlists : (directory entries).Lists [] := lists_nil_iff.mpr ⟨entries, rfl⟩
        simp only [contentAt?_nil_eq_some_iff, lookup_eq_some_iff_mem distinct]
        constructor
        · rintro (⟨name', hpath, htakes, hmem⟩ | ⟨name', node, path, hmem, -, hpath, hinner⟩)
          · obtain ⟨rfl, -⟩ := List.cons.inj hpath
            exact ⟨htakes, ⟨_, hmem, rfl⟩, hlists⟩
          · obtain ⟨-, rfl⟩ := List.cons.inj hpath
            have htaken := ((ih _ hmem).mp hinner).1
            simp [Selection.takesPath] at htaken
        · rintro ⟨htakes, ⟨node, hmem, rfl⟩, -⟩
          exact Or.inl ⟨name, rfl, htakes, hmem⟩
      | cons next path =>
        rw [Selection.takesPath, Bool.and_eq_true, List.dropLast_cons_cons,
          lists_directory_cons_iff]
        simp only [lookup_eq_some_iff_mem distinct]
        constructor
        · rintro (⟨name', hpath, -⟩ | ⟨name', node, path', hmem, henters, hpath, hinner⟩)
          · simp at hpath
          · obtain ⟨rfl, rfl⟩ := List.cons.inj hpath
            obtain ⟨htaken, hcontent, hlists⟩ := (ih _ hmem).mp hinner
            have hchild := (lookup_eq_some_iff_mem distinct).mpr hmem
            exact ⟨⟨henters, htaken⟩, ⟨node, hmem, hcontent⟩, node, hchild, hlists⟩
        · rintro ⟨⟨henters, htaken⟩, ⟨node, hmem, hcontent⟩, child, hchild, hlists⟩
          obtain rfl : child = node := Option.some.inj
            (hchild.symm.trans ((lookup_eq_some_iff_mem distinct).mpr hmem))
          exact Or.inr ⟨name, child, next :: path, hmem, henters, rfl,
            (ih _ hmem).mpr ⟨htaken, hcontent, hlists⟩⟩

/-- The path of a collected file is not empty. -/
theorem path_ne_nil_of_mem_sourceFiles {node : Node} (h : node.WellFormed) {file : SourceFile}
    (hfile : file ∈ node.sourceFiles selection) : file.path ≠ [] := by
  intro hnil
  have htaken := ((mem_sourceFiles_iff h).mp hfile).1
  simp [hnil, Selection.takesPath] at htaken

/-- No name on the path of a collected file has a slash in it. -/
theorem slash_not_mem_of_mem_path {node : Node} (h : node.WellFormed) {file : SourceFile}
    (hfile : file ∈ node.sourceFiles selection) {name : String} (hname : name ∈ file.path) :
    '/' ∉ name.toList := by
  induction h generalizing file with
  | @intro node distinct slashFree below ih =>
    obtain ⟨entries, rfl⟩ := eq_directory_of_mem_sourceFiles hfile
    rw [sourceFiles, List.mem_append, mem_filterMap_sourceFile?_iff, mem_filesBelow_iff] at hfile
    rcases hfile with ⟨name', hpath, -, hmem⟩ | ⟨name', node, path, hmem, -, hpath, hinner⟩
    · rw [hpath, List.mem_singleton] at hname
      exact hname ▸ slashFree _ hmem
    · rw [hpath] at hname
      rcases List.mem_cons.mp hname with rfl | hname
      · exact slashFree _ hmem
      · exact ih _ hmem hinner hname

theorem path_of_sourceFile? {entry : String × Node} {file : SourceFile}
    (h : sourceFile? selection entry = some file) : file.path = [entry.1] := by
  obtain ⟨name, node⟩ := entry
  cases node with
  | directory below | closed below => simp [sourceFile?] at h
  | file content =>
    rw [sourceFile?, Option.ite_none_right_eq_some] at h
    rw [← Option.some.inj h.2]

/-- The files of one subdirectory, with paths from the directory above. -/
private theorem map_path_below (name : String) (files : List SourceFile) :
    (files.map (SourceFile.below name)).map SourceFile.path =
      (files.map SourceFile.path).map (name :: ·) := by
  rw [List.map_map, List.map_map]
  rfl

/-- **Each file once**: no two collected files have the same path. -/
theorem nodup_path_sourceFiles {node : Node} (h : node.WellFormed) :
    ((node.sourceFiles selection).map SourceFile.path).Nodup := by
  induction h with
  | @intro node distinct slashFree below ih =>
    by_cases hnode : ∃ entries, node = .directory entries
    case neg =>
      rw [sourceFiles_eq_nil fun entries heq => hnode ⟨entries, heq⟩]
      exact List.nodup_nil
    obtain ⟨entries, rfl⟩ := hnode
    have hapart : entries.Pairwise fun a b => a.1 ≠ b.1 := List.pairwise_map.mp distinct
    rw [sourceFiles, List.map_append, List.nodup_append]
    refine ⟨?_, ?_, ?_⟩
    · rw [List.Nodup, List.pairwise_map, List.pairwise_filterMap]
      refine hapart.imp fun {a b} hab f hf g hg hpath => ?_
      rw [path_of_sourceFile? hf, path_of_sourceFile? hg] at hpath
      exact hab (List.cons.inj hpath).1
    · rw [filesBelow_eq_flatMap, List.map_flatMap, List.Nodup, List.pairwise_flatMap]
      refine ⟨fun entry hentry => ?_, hapart.imp fun {a b} hab p hp q hq hpq => ?_⟩
      · split
        · rw [map_path_below]
          exact (ih entry hentry).map (List.cons_injective)
        · exact List.Pairwise.nil
      · -- paths through two entries differ in their first names
        split at hp <;> split at hq <;> try contradiction
        rw [map_path_below] at hp hq
        obtain ⟨p', -, rfl⟩ := List.mem_map.mp hp
        obtain ⟨q', -, rfl⟩ := List.mem_map.mp hq
        exact hab (List.cons.inj hpq).1
    · -- a file of the directory itself has a path of one name, all others have longer ones
      intro p hp q hq hpq
      obtain ⟨file, hfile, rfl⟩ := List.mem_map.mp hp
      obtain ⟨file', hfile', rfl⟩ := List.mem_map.mp hq
      obtain ⟨name, hname, -⟩ := mem_filterMap_sourceFile?_iff.mp hfile
      obtain ⟨name', node, path, hmem, -, hpath, hinner⟩ := mem_filesBelow_iff.mp hfile'
      have hne : path ≠ [] := path_ne_nil_of_mem_sourceFiles (below _ hmem) hinner
      rw [hname, hpath] at hpq
      exact hne (List.cons.inj hpq).2.symm

end Node

/-! ### Trees that differ in the order of their entries -/

/-- The node without its entries. -/
def Node.bare (node : Node) : Node :=
  match node with
  | .file content => .file content
  | .directory _ => .directory []
  | .closed _ => .closed []

/-- Two trees with the same files and directories at the same paths. The order of the entries in a
directory may differ. -/
def Node.SameUpToOrder (a b : Node) : Prop :=
  ∀ path, (a.at? path).map Node.bare = (b.at? path).map Node.bare

/-- Directories that list the same entries. -/
theorem Node.sameUpToOrder_of_perm {entries others : List (String × Node)}
    (hperm : entries.Perm others) (distinct : (entries.map Prod.fst).Nodup) :
    (Node.directory entries).SameUpToOrder (.directory others) := by
  intro path
  cases path with
  | nil => rfl
  | cons name path =>
    have hlookup : entries.lookup name = others.lookup name := by
      ext node
      rw [lookup_eq_some_iff_mem distinct, hperm.mem_iff,
        lookup_eq_some_iff_mem ((hperm.map Prod.fst).nodup_iff.mp distinct)]
    rw [Node.at?, Node.at?, Node.entries, Node.entries, hlookup]

theorem Node.WellFormed.of_perm {entries others : List (String × Node)}
    (h : (Node.directory entries).WellFormed) (hperm : entries.Perm others) :
    (Node.directory others).WellFormed := by
  obtain ⟨distinct, slashFree, below⟩ := h
  exact .intro ((hperm.map Prod.fst).nodup_iff.mp distinct)
    (fun entry hentry => slashFree entry (hperm.mem_iff.mpr hentry))
    fun entry hentry => below entry (hperm.mem_iff.mpr hentry)

namespace Node.SameUpToOrder

variable {a b : Node}

/-- The nodes at one path are the same but for their entries. -/
theorem exists_at? (h : a.SameUpToOrder b) {path : Path} {n : Node} (hn : a.at? path = some n) :
    ∃ m, b.at? path = some m ∧ n.bare = m.bare := by
  have hpath := h path
  rw [hn, Option.map_some, eq_comm, Option.map_eq_some_iff] at hpath
  obtain ⟨m, hm, hbare⟩ := hpath
  exact ⟨m, hm, hbare.symm⟩

theorem symm (h : a.SameUpToOrder b) : b.SameUpToOrder a :=
  fun path => (h path).symm

/-- A look at the node at a path that does not see its entries. -/
theorem any_at? (h : a.SameUpToOrder b) (path : Path) {p : Node → Bool}
    (hp : ∀ node : Node, p node.bare = p node) : (a.at? path).any p = (b.at? path).any p := by
  cases ha : a.at? path with
  | some n =>
    obtain ⟨m, hm, hbare⟩ := h.exists_at? ha
    rw [hm, Option.any_some, Option.any_some, ← hp n, hbare, hp]
  | none =>
    have hb : b.at? path = none := by
      have hpath := h path
      rwa [ha, Option.map_none, eq_comm, Option.map_eq_none_iff] at hpath
    rw [hb]

theorem contentAt?_of_eq_some (h : a.SameUpToOrder b) {path : Path} {content : Content}
    (hcontent : a.contentAt? path = some content) : b.contentAt? path = some content := by
  rw [Node.contentAt?] at hcontent
  split at hcontent
  · next found hfound =>
    obtain ⟨m, hm, hbare⟩ := h.exists_at? hfound
    cases m with
    | directory entries | closed entries => cases hbare
    | file other =>
      obtain rfl : found = other := Node.file.inj hbare
      rw [Node.contentAt?, hm]
      exact hcontent
  · cases hcontent

theorem contentAt? (h : a.SameUpToOrder b) (path : Path) :
    a.contentAt? path = b.contentAt? path := by
  ext content
  exact ⟨h.contentAt?_of_eq_some, h.symm.contentAt?_of_eq_some⟩

theorem lists (h : a.SameUpToOrder b) {directories : Path} (ha : a.Lists directories) :
    b.Lists directories := by
  intro front hfront
  obtain ⟨entries, hentries⟩ := ha front hfront
  obtain ⟨m, hm, hbare⟩ := h.exists_at? hentries
  cases m with
  | directory others => exact ⟨others, hm⟩
  | file content | closed others => cases hbare

theorem reaches (h : a.SameUpToOrder b) (path : Path) (names : List String) :
    a.reaches path names = b.reaches path names := by
  have hdirectory (path : Path) :
      (a.at? path).any Node.isDirectory = (b.at? path).any Node.isDirectory :=
    h.any_at? path fun node => by cases node <;> rfl
  have hpresent (path : Path) :
      (a.at? path).any Node.isPresent = (b.at? path).any Node.isPresent :=
    h.any_at? path fun node => by cases node <;> rfl
  induction names generalizing path with
  | nil => rw [Node.reaches, Node.reaches, hpresent]
  | cons name names ih => rw [Node.reaches, Node.reaches, hdirectory, ih]

theorem find (h : a.SameUpToOrder b) (names : List String) : a.find names = b.find names := by
  rw [Node.find, Node.find, h.reaches]

/-- The nodes at one path of such trees are such trees. -/
theorem of_at? (h : a.SameUpToOrder b) {path : Path} {n m : Node} (hn : a.at? path = some n)
    (hm : b.at? path = some m) : n.SameUpToOrder m := by
  intro rest
  have hrest := h (path ++ rest)
  rwa [Node.at?_append, Node.at?_append, hn, hm] at hrest

end Node.SameUpToOrder

/-- **The order of entries** changes the order of the collected files and nothing else. -/
theorem Node.sourceFiles_perm {selection : Selection} {a b : Node} (h : a.SameUpToOrder b)
    (ha : a.WellFormed) (hb : b.WellFormed) :
    (a.sourceFiles selection).Perm (b.sourceFiles selection) := by
  refine (List.perm_ext_iff_of_nodup (nodup_path_sourceFiles ha).of_map
    (nodup_path_sourceFiles hb).of_map).mpr fun file => ?_
  rw [mem_sourceFiles_iff ha, mem_sourceFiles_iff hb, h.contentAt?]
  exact and_congr_right fun _ => and_congr_right fun _ => ⟨h.lists, h.symm.lists⟩

/-! ### Paths as text -/

namespace Path

/-- What lies behind a directory on a path below it. -/
theorem apart_append (directory path : Path) :
    apart directory (directory ++ path) = ([], path) := by
  induction directory with
  | nil => cases path <;> rfl
  | cons name directory ih => rw [List.cons_append, apart, if_pos rfl, ih]

/-- The text of a path below a directory is its names with slashes between them. -/
theorem relative_append (directory : Path) {path : Path} (hpath : path ≠ []) :
    relative directory (directory ++ path) = Text.joinWith "/" path := by
  rw [relative, apart_append]
  cases path with
  | nil => exact absurd rfl hpath
  | cons name path => rfl

/-- The names can be read off the text when they have no slash in them. -/
theorem splitOn_joinWith {path : Path} (hpath : path ≠ [])
    (hslash : ∀ name ∈ path, '/' ∉ name.toList) :
    (Text.joinWith "/" path).toList.splitOn '/' = path.map String.toList := by
  rw [Text.joinWith, String.toList_ofList]
  refine List.splitOn_intercalate '/' (fun l hl => ?_) (by simpa using hpath)
  obtain ⟨name, hname, rfl⟩ := List.mem_map.mp hl
  exact hslash name hname

theorem joinWith_inj {path other : Path} (hpath : path ≠ []) (hother : other ≠ [])
    (hslash : ∀ name ∈ path, '/' ∉ name.toList) (hslash' : ∀ name ∈ other, '/' ∉ name.toList)
    (h : Text.joinWith "/" path = Text.joinWith "/" other) : path = other := by
  have hnames : path.map String.toList = other.map String.toList := by
    rw [← splitOn_joinWith hpath hslash, ← splitOn_joinWith hother hslash', h]
  exact List.map_injective_iff.mpr (fun _ _ => String.toList_inj.mp) hnames

end Path

end GoIndex
