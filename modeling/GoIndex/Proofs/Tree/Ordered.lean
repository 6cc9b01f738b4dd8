import Mathlib.Data.String.Basic
import GoIndex.Proofs.Tree.Files

/-!
# Changes keep a tree in order

A tree that is made by writing files, making directories and removing nodes lists every directory in
ascending order of the names, each name once (`Node.Ordered`). Such a tree is well formed. The one
place where the order is at work is `put`: among ascending names it replaces the entry with the name
and adds no second one.
-/

namespace GoIndex.Node

/-- Every directory lists its entries in ascending order of their names, and no name has a slash in
it. -/
inductive Ordered : Node → Prop where
  | intro {node : Node} (ascending : node.entries.Pairwise fun a b => a.1 < b.1)
      (slashFree : ∀ entry ∈ node.entries, '/' ∉ entry.1.toList)
      (below : ∀ entry ∈ node.entries, Ordered entry.2) : Ordered node

/-- A node without entries is in order. -/
theorem ordered_of_entries_eq_nil {node : Node} (h : node.entries = []) : node.Ordered :=
  .intro (h ▸ .nil) (h ▸ nofun) (h ▸ nofun)

/-- Ascending names are distinct. -/
theorem Ordered.wellFormed {node : Node} (h : node.Ordered) : node.WellFormed := by
  induction h with
  | intro ascending slashFree _ ih =>
    refine .intro ?_ slashFree ih
    exact List.pairwise_map.mpr (ascending.imp fun h => ne_of_lt h)

/-! ### Entries -/

theorem mem_put {name : String} {node : Node} {entries : List (String × Node)}
    {entry : String × Node} (h : entry ∈ put name node entries) :
    entry = (name, node) ∨ entry ∈ entries := by
  fun_induction put name node entries with
  | case1 => exact Or.inl (List.mem_singleton.mp h)
  | case2 => exact List.mem_cons.mp h
  | case3 => exact (List.mem_cons.mp h).imp_right (List.mem_cons_of_mem _)
  | case4 first entries _ _ ih =>
    rcases List.mem_cons.mp h with rfl | h
    · exact Or.inr List.mem_cons_self
    · exact (ih h).imp_right (List.mem_cons_of_mem _)

/-- Ascending entries stay so when a node is put among them. -/
theorem pairwise_put {name : String} {node : Node} {entries : List (String × Node)}
    (h : entries.Pairwise fun a b => a.1 < b.1) :
    (put name node entries).Pairwise fun a b => a.1 < b.1 := by
  fun_induction put name node entries with
  | case1 => exact List.pairwise_singleton _ _
  | case2 first entries hlt =>
    refine List.pairwise_cons.mpr ⟨fun entry hentry => ?_, h⟩
    rcases List.mem_cons.mp hentry with rfl | hentry
    · exact hlt
    · exact lt_trans hlt ((List.pairwise_cons.mp h).1 entry hentry)
  | case3 first entries _ heq =>
    rw [List.pairwise_cons] at h ⊢
    refine ⟨fun entry hentry => ?_, h.2⟩
    rw [heq]
    exact h.1 entry hentry
  | case4 first entries hlt hne ih =>
    -- the name belongs further on, so it is greater than the first one
    rw [List.pairwise_cons] at h ⊢
    refine ⟨fun entry hentry => ?_, ih h.2⟩
    rcases mem_put hentry with rfl | hentry
    · exact lt_of_le_of_ne (not_lt.mp hlt) (Ne.symm hne)
    · exact h.1 entry hentry

@[simp]
theorem entries_withEntries (node : Node) (entries : List (String × Node)) :
    (node.withEntries entries).entries = entries := by
  cases node <;> rfl

/-- A node with a tree in order put under a name is in order. -/
theorem Ordered.put {name : String} {node child : Node} (h : node.Ordered)
    (hname : '/' ∉ name.toList) (hchild : child.Ordered) :
    (node.withEntries (put name child node.entries)).Ordered := by
  obtain ⟨ascending, slashFree, below⟩ := h
  refine .intro ?_ ?_ ?_ <;> rw [entries_withEntries]
  · exact pairwise_put ascending
  · intro entry hentry
    rcases mem_put hentry with rfl | hentry
    · exact hname
    · exact slashFree entry hentry
  · intro entry hentry
    rcases mem_put hentry with rfl | hentry
    · exact hchild
    · exact below entry hentry

/-- A node in order is so with some of its entries alone. -/
theorem Ordered.filter {node : Node} (h : node.Ordered) (p : String × Node → Bool) :
    (node.withEntries (node.entries.filter p)).Ordered := by
  obtain ⟨ascending, slashFree, below⟩ := h
  refine .intro ?_ ?_ ?_ <;> rw [entries_withEntries]
  · exact ascending.filter _
  · exact fun entry hentry => slashFree entry (List.mem_filter.mp hentry).1
  · exact fun entry hentry => below entry (List.mem_filter.mp hentry).1

theorem Ordered.asDirectory {node : Node} (h : node.Ordered) : node.asDirectory.Ordered := by
  obtain ⟨ascending, slashFree, below⟩ := h
  refine .intro ?_ ?_ ?_ <;> rwa [Node.asDirectory, entries_withEntries]

/-- A name that is found has no slash in it, and the node under it is in order. -/
theorem Ordered.lookup {node child : Node} {name : String} (h : node.Ordered)
    (hchild : node.entries.lookup name = some child) : '/' ∉ name.toList ∧ child.Ordered := by
  obtain ⟨ascending, slashFree, below⟩ := h
  have hdistinct := List.pairwise_map.mpr (ascending.imp fun h => ne_of_lt h)
  have hmem := (lookup_eq_some_iff_mem hdistinct).mp hchild
  exact ⟨slashFree _ hmem, below _ hmem⟩

/-- What is in order, or an empty directory in its place. -/
theorem ordered_getD {node : Option Node} (h : ∀ n ∈ node, n.Ordered) :
    (node.getD (.directory [])).Ordered := by
  cases node with
  | none => exact ordered_of_entries_eq_nil rfl
  | some n => exact h n rfl

/-! ### Changes -/

/-- **Step along a path**: a change that keeps order at the end of a path keeps it in the tree. -/
theorem Ordered.update {change : Option Node → Node}
    (hchange : ∀ node, (∀ n ∈ node, n.Ordered) → (change node).Ordered) {path : Path}
    (hpath : ∀ name ∈ path, '/' ∉ name.toList) {node : Option Node}
    (hnode : ∀ n ∈ node, n.Ordered) : (update change path node).Ordered := by
  induction path generalizing node with
  | nil => exact hchange node hnode
  | cons name path ih =>
    rw [List.forall_mem_cons] at hpath
    have hbase := ordered_getD hnode
    exact hbase.put hpath.1 (ih hpath.2 fun child hchild => (hbase.lookup hchild).2)

theorem Ordered.write {tree : Node} (h : tree.Ordered) {path : Path}
    (hpath : ∀ name ∈ path, '/' ∉ name.toList) (content : Content) :
    (tree.write path content).Ordered :=
  Ordered.update (fun _ _ => ordered_of_entries_eq_nil rfl) hpath fun _ hn =>
    Option.some.inj hn ▸ h

theorem Ordered.makeDirectory {tree : Node} (h : tree.Ordered) {path : Path}
    (hpath : ∀ name ∈ path, '/' ∉ name.toList) : (tree.makeDirectory path).Ordered :=
  Ordered.update (fun _ hnode => (ordered_getD hnode).asDirectory) hpath fun _ hn =>
    Option.some.inj hn ▸ h

theorem Ordered.remove {tree rest : Node} {path : Path} (h : tree.Ordered)
    (hrest : tree.remove? path = some rest) : rest.Ordered := by
  fun_induction remove? path tree generalizing rest with
  | case1 => cases hrest
  | case2 tree name =>
    obtain ⟨-, -, rfl⟩ := Option.map_eq_some_iff.mp hrest
    exact h.filter _
  | case3 tree name path _ ih =>
    -- the name was found, so it is one of those in the tree and needs no assumption of its own
    obtain ⟨child, hchild, hrest⟩ := Option.bind_eq_some_iff.mp hrest
    obtain ⟨below, hbelow, hrest⟩ := Option.bind_eq_some_iff.mp hrest
    obtain rfl := Option.some.inj hrest
    obtain ⟨hname, hordered⟩ := h.lookup hchild
    exact h.put hname (ih child hordered hbelow)

end GoIndex.Node
