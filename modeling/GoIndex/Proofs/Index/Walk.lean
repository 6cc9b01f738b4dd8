import GoIndex.Proofs.Index.Order

/-!
# The walk of an index

The source files of an index are those that its selection takes by their names and that it can get
to, each of them once, under the path that leads to them from the root (`sourceFiles_of_walk`). They
are meant to be the regular files with these names. But a walk does not look at what a file is, and
it passes over a directory that it cannot list; so they are just those only where neither makes a
difference (`link_is_collected_and_closed_is_not`).

Beside what is collected there is the order: the files below a directory stand together, those of
the directory itself in front (`StandTogether`). A walk enters a subdirectory for one stretch and
never comes back to it, so what holds of a subdirectory holds of the whole walk
(`StandTogether.append_left`, `StandTogether.append_right`, `StandTogether.map_below`).
-/

namespace GoIndex

/-! ### Files that stand together -/

/-- A file lies below a directory, in it or deeper. -/
def SourceFile.LiesBelow (file : SourceFile) (directory : Path) : Prop :=
  ∃ name rest, file.path = directory ++ name :: rest

/-- The files below a directory are one stretch of the list. It begins with the files of the
directory itself; those of its subdirectories follow. -/
def StandTogether (directory : Path) (files : List SourceFile) : Prop :=
  ∃ before own deeper after, files = before ++ own ++ deeper ++ after ∧
    (∀ file ∈ own, ∃ name, file.path = directory ++ [name]) ∧
    (∀ file ∈ deeper, ∃ name next rest, file.path = directory ++ name :: next :: rest) ∧
    ∀ file ∈ before ++ after, ¬ file.LiesBelow directory

namespace StandTogether

variable {directory : Path} {files others : List SourceFile}

theorem of_forall_not (h : ∀ file ∈ files, ¬ file.LiesBelow directory) :
    StandTogether directory files :=
  ⟨files, [], [], [], by simp, by simp, by simp, by simpa using h⟩

theorem nil (directory : Path) : StandTogether directory [] :=
  of_forall_not (by simp)

theorem append_left (hothers : ∀ file ∈ others, ¬ file.LiesBelow directory)
    (h : StandTogether directory files) : StandTogether directory (others ++ files) := by
  obtain ⟨before, own, deeper, after, rfl, hown, hdeeper, houtside⟩ := h
  refine ⟨others ++ before, own, deeper, after, by simp, hown, hdeeper, fun file hfile => ?_⟩
  rw [List.append_assoc, List.mem_append] at hfile
  exact hfile.elim (hothers file) (houtside file)

theorem append_right (hothers : ∀ file ∈ others, ¬ file.LiesBelow directory)
    (h : StandTogether directory files) : StandTogether directory (files ++ others) := by
  obtain ⟨before, own, deeper, after, rfl, hown, hdeeper, houtside⟩ := h
  refine ⟨before, own, deeper, after ++ others, by simp, hown, hdeeper, fun file hfile => ?_⟩
  rw [← List.append_assoc, List.mem_append] at hfile
  exact hfile.elim (houtside file) (hothers file)

/-- Files that stand together do so as seen from the directory above. -/
theorem map_below (name : String) (h : StandTogether directory files) :
    StandTogether (name :: directory) (files.map (SourceFile.below name)) := by
  obtain ⟨before, own, deeper, after, rfl, hown, hdeeper, houtside⟩ := h
  refine ⟨before.map (SourceFile.below name), own.map (SourceFile.below name),
    deeper.map (SourceFile.below name), after.map (SourceFile.below name), by simp, ?_, ?_, ?_⟩
  · intro file hfile
    obtain ⟨inner, hinner, rfl⟩ := List.mem_map.mp hfile
    obtain ⟨last, hlast⟩ := hown inner hinner
    exact ⟨last, congrArg (name :: ·) hlast⟩
  · intro file hfile
    obtain ⟨inner, hinner, rfl⟩ := List.mem_map.mp hfile
    obtain ⟨first, next, rest, hpath⟩ := hdeeper inner hinner
    exact ⟨first, next, rest, congrArg (name :: ·) hpath⟩
  · rw [← List.map_append]
    intro file hfile hbelow
    obtain ⟨inner, hinner, rfl⟩ := List.mem_map.mp hfile
    obtain ⟨first, rest, hpath⟩ := hbelow
    exact houtside inner hinner ⟨first, rest, (List.cons.inj hpath).2⟩

end StandTogether

namespace Node

variable {selection : Selection} {entries : List (String × Node)} {name : String} {directory : Path}

/-- A file of a directory itself lies in none of the directories below. -/
theorem not_liesBelow_of_mem_own {file : SourceFile}
    (hfile : file ∈ entries.filterMap (sourceFile? selection)) :
    ¬ file.LiesBelow (name :: directory) := by
  rintro ⟨first, rest, hpath⟩
  obtain ⟨last, hlast, -⟩ := mem_filterMap_sourceFile?_iff.mp hfile
  simp [hlast] at hpath

/-- What is collected through other entries does not lie below a directory. -/
theorem not_liesBelow_of_mem_filesBelow {file : SourceFile}
    (hother : ∀ entry ∈ entries, selection.enters entry.1 → entry.1 ≠ name)
    (hfile : file ∈ filesBelow selection entries) : ¬ file.LiesBelow (name :: directory) := by
  rintro ⟨first, rest, hpath⟩
  obtain ⟨other, node, path, hmem, henters, hother', -⟩ := mem_filesBelow_iff.mp hfile
  rw [hother'] at hpath
  exact hother _ hmem henters (List.cons.inj hpath).1

theorem filesBelow_append (entries others : List (String × Node)) :
    filesBelow selection (entries ++ others) =
      filesBelow selection entries ++ filesBelow selection others := by
  simp only [filesBelow_eq_flatMap, List.flatMap_append]

/-- **The order of a walk**: the files below a directory stand together, its own in front. -/
theorem standTogether_sourceFiles {node : Node} (h : node.WellFormed) (directory : Path) :
    StandTogether directory (node.sourceFiles selection) := by
  induction directory generalizing node with
  | nil =>
    obtain ⟨distinct, slashFree, below⟩ := h
    cases node with
    | file content | closed entries => exact .nil []
    | directory entries =>
      refine ⟨[], entries.filterMap (sourceFile? selection), filesBelow selection entries, [],
        by simp [sourceFiles], fun file hfile => ?_, fun file hfile => ?_, by simp⟩
      · obtain ⟨name, hname, -⟩ := mem_filterMap_sourceFile?_iff.mp hfile
        exact ⟨name, hname⟩
      · obtain ⟨name, child, path, hmem, -, hpath, hinner⟩ := mem_filesBelow_iff.mp hfile
        obtain ⟨next, rest, rfl⟩ := List.exists_cons_of_ne_nil
          (path_ne_nil_of_mem_sourceFiles (below _ hmem) hinner)
        exact ⟨name, next, rest, hpath⟩
  | cons name directory ih =>
    obtain ⟨distinct, slashFree, below⟩ := h
    cases node with
    | file content | closed entries => exact .nil (name :: directory)
    | directory entries =>
      rw [sourceFiles]
      refine .append_left (fun file hfile => not_liesBelow_of_mem_own hfile) ?_
      by_cases hentered : ∃ child, (name, child) ∈ entries ∧ selection.enters name
      · obtain ⟨child, hmem, henters⟩ := hentered
        obtain ⟨front, back, rfl⟩ := List.append_of_mem hmem
        -- names are distinct, so the other entries lead elsewhere
        rw [entries, List.map_append, List.map_cons, List.nodup_middle, List.nodup_cons,
          ← List.map_append] at distinct
        have helsewhere : ∀ entry ∈ front ++ back, selection.enters entry.1 → entry.1 ≠ name :=
          fun entry hentry _ hname => distinct.1 (List.mem_map.mpr ⟨entry, hentry, hname⟩)
        rw [filesBelow_append, filesBelow, if_pos henters]
        refine .append_left (fun file hfile => ?_) (.append_right (fun file hfile => ?_) ?_)
        · exact not_liesBelow_of_mem_filesBelow
            (fun entry hentry => helsewhere entry (List.mem_append_left _ hentry)) hfile
        · exact not_liesBelow_of_mem_filesBelow
            (fun entry hentry => helsewhere entry (List.mem_append_right _ hentry)) hfile
        · exact (ih (below _ hmem)).map_below name
      · refine .of_forall_not fun file hfile => not_liesBelow_of_mem_filesBelow ?_ hfile
        rintro ⟨other, child⟩ hmem henters rfl
        exact hentered ⟨child, hmem, henters⟩

end Node

/-! ### Paths that are taken -/

/-- A path is taken when all of its directories are entered and the file at its end is taken. -/
theorem Selection.takesPath_concat {selection : Selection} {directories : Path} {name : String} :
    selection.takesPath (directories ++ [name]) ↔
      (∀ directory ∈ directories, selection.enters directory) ∧ selection.takes name := by
  induction directories with
  | nil => simp [takesPath]
  | cons first directories ih =>
    have hcons : selection.takesPath (first :: (directories ++ [name])) =
        (selection.enters first && selection.takesPath (directories ++ [name])) := by
      cases directories <;> rfl
    rw [List.cons_append, hcons, Bool.and_eq_true, ih, List.forall_mem_cons, and_assoc]

theorem Selection.enters_iff {selection : Selection} {name : String} :
    selection.enters name ↔ name.toList.head? ≠ some '.' ∧ name ∉ selection.skipped := by
  simp [enters, isHidden]

theorem Selection.takes_iff {selection : Selection} {name : String} :
    selection.takes name ↔ name.toList.head? ≠ some '.' ∧
      selection.suffix.toList <:+ name.toList ∧ ¬ selection.testSuffix.toList <:+ name.toList := by
  simp [takes, isHidden, and_assoc, ← List.isSuffixOf_iff_suffix]

/-- By its names a path is that of a source file: no directory on it is hidden or skipped, and the
name of the file is not hidden, ends in the suffix of source files and not in that of tests. -/
def Selection.Fits (selection : Selection) (directories : Path) (name : String) : Prop :=
  (∀ directory ∈ directories, directory.toList.head? ≠ some '.' ∧ directory ∉ selection.skipped) ∧
    name.toList.head? ≠ some '.' ∧ selection.suffix.toList <:+ name.toList ∧
      ¬ selection.testSuffix.toList <:+ name.toList

theorem Selection.takesPath_concat_iff_fits {selection : Selection} {directories : Path}
    {name : String} :
    selection.takesPath (directories ++ [name]) ↔ selection.Fits directories name := by
  rw [takesPath_concat, takes_iff, Fits]
  simp only [enters_iff]

theorem Node.contentAt?_append (tree : Node) (path rest : Path) :
    tree.contentAt? (path ++ rest) = (tree.at? path).bind (·.contentAt? rest) := by
  rw [contentAt?, at?_append]
  cases tree.at? path <;> rfl

/-- The module of a relative path is its first directory. -/
theorem Path.moduleOf_joinWith {directories : Path} {name : String}
    (hslash : ∀ part ∈ directories ++ [name], '/' ∉ part.toList) :
    moduleOf (Text.joinWith "/" (directories ++ [name])) = directories.head?.getD rootModule := by
  rw [moduleOf, splitOn_joinWith (by simp) hslash]
  cases directories with
  | nil => rfl
  | cons first directories =>
    rw [List.cons_append, List.map_cons, List.head?_cons, Option.getD_some]
    cases directories <;> exact String.ofList_toList

namespace Index

variable {index : Index} {tree : Node} {directories : Path} {name : String}

/-- There is a regular file at a path below the root. -/
def HasRegularFile (index : Index) (tree : Node) (path : Path) : Prop :=
  ∃ bytes, tree.contentAt? (index.root ++ path) = some (.readable bytes)

/-- Every directory from the root on along a path can be listed. -/
def Lists (index : Index) (tree : Node) (directories : Path) : Prop :=
  ∀ front, front <+: directories → ∃ entries, tree.at? (index.root ++ front) =
    some (.directory entries)

theorem lists_iff {node : Node} (hat : tree.at? index.root = some node) :
    index.Lists tree directories ↔ node.Lists directories := by
  simp only [Lists, Node.Lists, Node.at?_append, hat, Option.bind_some]

/-- A file is collected when the tree has it, its path is taken, and the directories on the way can
be listed. -/
theorem mem_collected_iff (htree : tree.WellFormed) {content : Content} :
    ⟨directories ++ [name], content⟩ ∈ index.collected tree ↔
      tree.contentAt? (index.root ++ (directories ++ [name])) = some content ∧
        index.Lists tree directories ∧ index.selection.Fits directories name := by
  rw [collected, Node.contentAt?_append, ← Selection.takesPath_concat_iff_fits]
  cases hat : tree.at? index.root with
  | none => simp
  | some node =>
    rw [lists_iff hat, Option.map_some, Option.getD_some, Option.bind_some,
      Node.mem_sourceFiles_iff (htree.of_at? hat), List.dropLast_concat]
    exact and_comm.trans and_assoc

theorem exists_concat_of_mem_collected (htree : tree.WellFormed) {file : SourceFile}
    (hfile : file ∈ index.collected tree) :
    ∃ directories name, file.path = directories ++ [name] := by
  obtain ⟨node, hnode, hmem⟩ := exists_wellFormed_of_mem_collected htree hfile
  have hne := Node.path_ne_nil_of_mem_sourceFiles hnode hmem
  exact (List.eq_nil_or_concat' file.path).resolve_left hne

theorem mem_path_collected_iff (htree : tree.WellFormed) :
    directories ++ [name] ∈ (index.collected tree).map SourceFile.path ↔
      ∃ content, tree.contentAt? (index.root ++ (directories ++ [name])) = some content ∧
        index.Lists tree directories ∧ index.selection.Fits directories name := by
  simp only [← mem_collected_iff htree, List.mem_map]
  constructor
  · rintro ⟨⟨path, content⟩, hfile, rfl⟩
    exact ⟨content, hfile⟩
  · rintro ⟨content, hfile⟩
    exact ⟨_, hfile, rfl⟩

/-- The collected files are the regular files with fitting names exactly when nothing else has such
a name and is found, and all of them are found. -/
theorem collected_regular_iff (htree : tree.WellFormed) :
    (∀ directories name, directories ++ [name] ∈ (index.collected tree).map SourceFile.path ↔
        index.HasRegularFile tree (directories ++ [name]) ∧
          index.selection.Fits directories name) ↔
      (∀ file ∈ index.collected tree, file.content.isReadable) ∧
      ∀ directories name, index.HasRegularFile tree (directories ++ [name]) →
        index.selection.Fits directories name → index.Lists tree directories := by
  simp only [mem_path_collected_iff htree]
  constructor
  · refine fun hlaw => ⟨fun file hfile => ?_, fun directories name hregular hfits => ?_⟩
    · obtain ⟨directories, name, hpath⟩ := exists_concat_of_mem_collected htree hfile
      obtain ⟨path, content⟩ := file
      obtain rfl : path = directories ++ [name] := hpath
      have hfound := (mem_collected_iff htree).mp hfile
      obtain ⟨⟨bytes, hbytes⟩, -⟩ := (hlaw directories name).mp ⟨content, hfound⟩
      obtain rfl := Option.some.inj (hfound.1.symm.trans hbytes)
      rfl
    · obtain ⟨content, -, hlists, -⟩ := (hlaw directories name).mpr ⟨hregular, hfits⟩
      exact hlists
  · rintro ⟨hreadable, hlisted⟩ directories name
    constructor
    · rintro ⟨content, hfound⟩
      have hcontent := hreadable _ ((mem_collected_iff htree).mpr hfound)
      cases content with
      | unreadable => cases hcontent
      | readable bytes => exact ⟨⟨bytes, hfound.1⟩, hfound.2.2⟩
    · rintro ⟨⟨bytes, hbytes⟩, hfits⟩
      exact ⟨_, hbytes, hlisted directories name ⟨bytes, hbytes⟩ hfits, hfits⟩

theorem standTogether_collected (htree : tree.WellFormed) (directory : Path) :
    StandTogether directory (index.collected tree) := by
  rw [collected]
  cases hat : tree.at? index.root with
  | none => exact .nil directory
  | some node => exact Node.standTogether_sourceFiles (htree.of_at? hat) directory

/-- The relative path of a collected file spells its path out, and its module is the first directory
on it. -/
theorem relativePath_of_mem_collected (htree : tree.WellFormed) {file : SourceFile}
    (hfile : file ∈ index.collected tree) :
    ∃ directories name, file.path = directories ++ [name] ∧
      index.relativePath file = Text.joinWith "/" (directories ++ [name]) ∧
      index.moduleOf file = directories.head?.getD Path.rootModule := by
  obtain ⟨node, hnode, hmem⟩ := exists_wellFormed_of_mem_collected htree hfile
  obtain ⟨directories, name, hpath⟩ := exists_concat_of_mem_collected htree hfile
  have hrelative : index.relativePath file = Text.joinWith "/" (directories ++ [name]) := by
    rw [relativePath, Path.relative_append _ (by simp [hpath]), hpath]
  refine ⟨directories, name, hpath, hrelative, ?_⟩
  rw [moduleOf, hrelative]
  refine Path.moduleOf_joinWith fun part hpart => ?_
  exact Node.slash_not_mem_of_mem_path hnode hmem (hpath ▸ hpart)

/-- **The source files of an index.** A root whose path is too long cannot be looked for. Otherwise:

* No file is collected twice. A file is collected when the tree has it below the root, its path fits
  by its names, and every directory on the way can be listed. What the file is plays no part.
* So the collected files are the regular files with fitting paths if and only if each of them is a
  regular file, and none of these lies in a directory that cannot be listed.
* The files below every directory stand together, its own in front.
* The relative path of a file is the path to it from the root, so no two files share one, and its
  module is the first directory on that path, if there is one. -/
theorem sourceFiles_of_walk (htree : tree.WellFormed) :
    (tree.find index.root = .nameTooLong →
      index.sourceFiles tree = .error (.unusable .nameTooLong)) ∧
    (tree.find index.root ≠ .nameTooLong →
      ∃ files, index.sourceFiles tree = .ok files ∧
        (files.map SourceFile.path).Nodup ∧
        (∀ directories name content, ⟨directories ++ [name], content⟩ ∈ files ↔
          tree.contentAt? (index.root ++ (directories ++ [name])) = some content ∧
            index.Lists tree directories ∧ index.selection.Fits directories name) ∧
        ((∀ directories name, directories ++ [name] ∈ files.map SourceFile.path ↔
            index.HasRegularFile tree (directories ++ [name]) ∧
              index.selection.Fits directories name) ↔
          (∀ file ∈ files, file.content.isReadable) ∧
          ∀ directories name, index.HasRegularFile tree (directories ++ [name]) →
            index.selection.Fits directories name → index.Lists tree directories) ∧
        (∀ directory, StandTogether directory files) ∧
        (∀ file ∈ files, ∃ directories name, file.path = directories ++ [name] ∧
          index.relativePath file = Text.joinWith "/" (directories ++ [name]) ∧
          index.moduleOf file = directories.head?.getD "root") ∧
        ∀ file ∈ files, ∀ other ∈ files,
          index.relativePath file = index.relativePath other → file = other) := by
  refine ⟨fun hroot => if_pos hroot, fun hroot => ?_⟩
  refine ⟨_, sourceFiles_of_find_ne hroot, nodup_path_collected htree,
    fun directories name content => mem_collected_iff htree, collected_regular_iff htree,
    standTogether_collected htree, fun file hfile => relativePath_of_mem_collected htree hfile, ?_⟩
  intro file hfile other hother hrelative
  exact List.inj_on_of_nodup_map (nodup_path_collected htree) hfile hother
    (path_eq_of_relativePath_eq htree hfile hother hrelative)

/-- A tree with a hidden directory, a skipped one deeper down and a test file, built in order. -/
private def mixed : Node :=
  [[".git", "a.go"], ["main.go"], ["net", "a.go"], ["net", "a_test.go"], ["net", "vendor", "b.go"],
    ["net", "zip", "c.go"]].foldl (fun tree path => tree.write path (.readable [])) (.directory [])

/-- Three of the six files are collected. -/
theorem sourceFiles_of_walk_of_mixed :
    let index : Index := { root := [], settings := {} }
    ∃ files, index.sourceFiles mixed = .ok files ∧
      files.map index.relativePath = ["main.go", "net/a.go", "net/zip/c.go"] ∧
      (files.map SourceFile.path).Nodup ∧
      (∀ content, ⟨["net", "vendor", "b.go"], content⟩ ∉ files) ∧
      StandTogether ["net"] files ∧
      ∀ file ∈ files, ∃ directories name, file.path = directories ++ [name] ∧
        index.moduleOf file = directories.head?.getD "root" := by
  intro index
  have hordered : mixed.Ordered := by
    have hempty : (Node.directory []).Ordered := Node.ordered_of_entries_eq_nil rfl
    exact (((((hempty.write (by decide) _).write (by decide) _).write (by decide) _).write
      (by decide) _).write (by decide) _).write (by decide) _
  have hroot : mixed.find index.root ≠ .nameTooLong := by decide +kernel
  obtain ⟨files, hfiles, hnodup, hmem, -, htogether, hpaths, -⟩ :=
    (sourceFiles_of_walk hordered.wellFormed).2 hroot
  have hrelative : (index.sourceFiles mixed).toOption.map (List.map index.relativePath) =
      some ["main.go", "net/a.go", "net/zip/c.go"] := by decide +kernel
  rw [hfiles] at hrelative
  refine ⟨files, hfiles, Option.some.inj hrelative, hnodup, fun content hfile => ?_,
    htogether ["net"], fun file hfile => ?_⟩
  · obtain ⟨-, -, hdirectories, -⟩ := (hmem ["net", "vendor"] "b.go" content).mp hfile
    exact (hdirectories "vendor" (by decide)).2 (by decide +kernel)
  · obtain ⟨directories, name, hpath, -, hmodule⟩ := hpaths file hfile
    exact ⟨directories, name, hpath, hmodule⟩

/-- A link that leads nowhere, and a regular file in a directory that cannot be listed. -/
private def halfSeen : Node :=
  .directory [("a.go", .file .unreadable), ("net", .closed [("b.go", .file (.readable []))])]

/-- A link that leads nowhere is collected, although it is no regular file and does not even exist
for one who looks for it; and a regular file in a closed directory is not. -/
theorem link_is_collected_and_closed_is_not :
    let index : Index := { root := [], settings := {} }
    (index.sourceFiles halfSeen).toOption.map (List.map SourceFile.path) = some [["a.go"]] ∧
      ¬ index.HasRegularFile halfSeen ["a.go"] ∧ halfSeen.find ["a.go"] = .absent ∧
      index.HasRegularFile halfSeen ["net", "b.go"] ∧ index.selection.Fits ["net"] "b.go" := by
  intro index
  refine ⟨by decide +kernel, ?_, by decide +kernel, ⟨[], rfl⟩, ?_⟩
  · rintro ⟨bytes, hbytes⟩
    cases hbytes
  · rw [← Selection.takesPath_concat_iff_fits]
    decide +kernel

end Index

end GoIndex
