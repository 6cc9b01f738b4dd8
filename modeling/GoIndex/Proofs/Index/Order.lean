import GoIndex.Proofs.Catalog.Order
import GoIndex.Proofs.Index.Scan
import GoIndex.Proofs.Source.Places
import GoIndex.Proofs.Tree.Ordered

/-!
# The order of directories plays no part

In a scanned tree no two declarations stand at the same place: files have distinct paths, and within
a file the line numbers ascend (`nodup_place_snapshot`). So the place settles every tie among hits,
and no answer of `SameAnswers` shows the order of the catalog. The order in which directories list
their entries does no more than arrange the catalog (`snapshot_perm`).
-/

namespace GoIndex.Index

variable {index : Index}

/-! ### Places in a tree -/

theorem pairwise_lineNumber_declarationsIn (index : Index) (file : SourceFile) :
    (index.declarationsIn file).Pairwise fun a b => a.lineNumber < b.lineNumber := by
  rw [declarationsIn]
  cases file.content.text? with
  | none => exact List.Pairwise.nil
  | some text => exact Source.pairwise_lineNumber_scan _ text

/-- The collected files are those of a well-formed tree. -/
theorem exists_wellFormed_of_mem_collected {tree : Node} (htree : tree.WellFormed)
    {file : SourceFile} (hfile : file ∈ index.collected tree) :
    ∃ node : Node, node.WellFormed ∧ file ∈ node.sourceFiles index.selection := by
  rw [collected] at hfile
  cases hat : tree.at? index.root with
  | none => simp [hat] at hfile
  | some node =>
    rw [hat] at hfile
    exact ⟨node, htree.of_at? hat, hfile⟩

/-- Files with one relative path have one path. -/
theorem path_eq_of_relativePath_eq {tree : Node} (htree : tree.WellFormed)
    {file other : SourceFile} (hfile : file ∈ index.collected tree)
    (hother : other ∈ index.collected tree)
    (h : index.relativePath file = index.relativePath other) : file.path = other.path := by
  obtain ⟨n, hn, hfile⟩ := exists_wellFormed_of_mem_collected htree hfile
  obtain ⟨m, hm, hother⟩ := exists_wellFormed_of_mem_collected htree hother
  have hne := Node.path_ne_nil_of_mem_sourceFiles hn hfile
  have hne' := Node.path_ne_nil_of_mem_sourceFiles hm hother
  rw [relativePath, relativePath, Path.relative_append _ hne, Path.relative_append _ hne'] at h
  exact Path.joinWith_inj hne hne' (fun _ => Node.slash_not_mem_of_mem_path hn hfile)
    (fun _ => Node.slash_not_mem_of_mem_path hm hother) h

theorem nodup_path_collected {tree : Node} (htree : tree.WellFormed) :
    ((index.collected tree).map SourceFile.path).Nodup := by
  rw [collected]
  cases hat : tree.at? index.root with
  | none => exact List.nodup_nil
  | some node => exact Node.nodup_path_sourceFiles (htree.of_at? hat)

/-- **Distinct places**: no two declarations of a tree have the same file and line. -/
theorem nodup_place_snapshot (index : Index) {tree : Node} (htree : tree.WellFormed) :
    ((index.snapshot tree).map Declaration.place).Nodup := by
  rw [snapshot, List.Nodup, List.pairwise_map, List.pairwise_flatMap]
  -- within a file the lines differ, across files the paths do
  refine ⟨fun file _ => ?_, ?_⟩
  · refine (index.pairwise_lineNumber_declarationsIn file).imp fun {a b} hab hplace => ?_
    have hline : a.lineNumber = b.lineNumber := congrArg Prod.snd hplace
    omega
  · refine (List.pairwise_map.mp (nodup_path_collected htree)).imp_of_mem ?_
    intro file other hfile hother hpath a ha b hb hplace
    refine hpath (path_eq_of_relativePath_eq htree hfile hother ?_)
    rw [← (origin_of_mem_declarationsIn ha).1, ← (origin_of_mem_declarationsIn hb).1]
    exact congrArg Prod.fst hplace

/-! ### Trees in another order -/

theorem collected_perm {tree other : Node} (h : tree.SameUpToOrder other)
    (htree : tree.WellFormed) (hother : other.WellFormed) :
    (index.collected tree).Perm (index.collected other) := by
  have hroot := h index.root
  rw [collected, collected]
  cases hn : tree.at? index.root with
  | none =>
    rw [hn, Option.map_none, eq_comm, Option.map_eq_none_iff] at hroot
    rw [hroot]
  | some n =>
    rw [hn, Option.map_some, eq_comm, Option.map_eq_some_iff] at hroot
    obtain ⟨m, hm, -⟩ := hroot
    rw [hm]
    exact Node.sourceFiles_perm (h.of_at? hn hm) (htree.of_at? hn) (hother.of_at? hm)

theorem snapshot_perm (index : Index) {tree other : Node} (h : tree.SameUpToOrder other)
    (htree : tree.WellFormed) (hother : other.WellFormed) :
    (index.snapshot tree).Perm (index.snapshot other) :=
  (collected_perm h htree hother).flatMap_right _

/-- A tree in another order can be scanned when the first can. -/
theorem scans_of_sameUpToOrder {tree other : Node} (hscans : index.scans tree)
    (h : tree.SameUpToOrder other) (htree : tree.WellFormed) (hother : other.WellFormed) :
    index.scans other := by
  rw [scans, Bool.and_eq_true, List.all_eq_true] at hscans ⊢
  obtain ⟨hroot, hfiles⟩ := hscans
  refine ⟨by rwa [← h.find], fun file hfile => hfiles file ?_⟩
  exact (collected_perm h htree hother).mem_iff.mpr hfile

/-- **Order plays no part in a scanned tree**: no two declarations stand at the same place; every
arrangement of the declarations gives the same answers; and a tree that lists its directories in
another order is scanned to such an arrangement. -/
theorem scanAll_order_free {index : Index} {tree : Node} {catalog : Catalog}
    (htree : tree.WellFormed) (hscan : index.scanAll tree = .ok catalog) :
    (catalog.map Declaration.place).Nodup ∧
    (∀ P : Catalog, P.Perm catalog → SameAnswers P catalog) ∧
    ∀ other : Node, other.WellFormed → tree.SameUpToOrder other →
      ∃ P, index.scanAll other = .ok P ∧ P.Perm catalog ∧ SameAnswers P catalog := by
  obtain ⟨hscans, rfl⟩ := scanAll_eq_ok_iff.mp hscan
  have hplace := nodup_place_snapshot index htree
  refine ⟨hplace, fun P hperm => sameAnswers_of_perm hperm hplace, fun other hother h => ?_⟩
  have hperm := (snapshot_perm index h htree hother).symm
  exact ⟨_, scanAll_of_scans (scans_of_sameUpToOrder hscans h htree hother), hperm,
    sameAnswers_of_perm hperm hplace⟩

/-- Two files that declare the same name on the same line. -/
private def twins : Node :=
  ((Node.directory []).write ["b.go"] (.readable "type T int".toUTF8.data.toList)).write ["a.go"]
    (.readable "type T int".toUTF8.data.toList)

/-- Listing the two files the other way round turns the catalog around, and still no answer
changes. -/
theorem scanAll_order_free_twins :
    let index : Index := { root := [], settings := {} }
    let turned : Node := .directory twins.entries.reverse
    (index.snapshot twins).map Declaration.place = [("a.go", 1), ("b.go", 1)] ∧
    (index.snapshot turned).map Declaration.place = [("b.go", 1), ("a.go", 1)] ∧
    ∃ P, index.scanAll turned = .ok P ∧ SameAnswers P (index.snapshot twins) := by
  intro index turned
  have hempty : (Node.directory []).Ordered := Node.ordered_of_entries_eq_nil rfl
  have htwins : twins.WellFormed :=
    ((hempty.write (by decide) _).write (by decide) _).wellFormed
  have hperm : twins.entries.Perm twins.entries.reverse := (List.reverse_perm _).symm
  have hscan : index.scanAll twins = .ok (index.snapshot twins) :=
    scanAll_of_scans (by decide +kernel)
  obtain ⟨-, -, hturned⟩ := scanAll_order_free htwins hscan
  obtain ⟨P, hP, -, hanswers⟩ := hturned turned (Node.WellFormed.of_perm htwins hperm)
    (Node.sameUpToOrder_of_perm hperm (by decide +kernel))
  exact ⟨by decide +kernel, by decide +kernel, P, hP, hanswers⟩

end GoIndex.Index
