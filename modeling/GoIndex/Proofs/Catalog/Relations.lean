import GoIndex.Catalog.Relations
import GoIndex.Proofs.Text.Lines
import GoIndex.Proofs.Text.Lower
import GoIndex.Proofs.Text.Trim

/-!
# Parents and children

Parents are read off whole lines of one declaration, children by looking for a name, in any case, in
all declarations. The two agree (`relations_dual`): a declaration that embeds a name is a child of
whatever that name finds, be it under another spelling.

What makes them agree is that an embedded name is ASCII. Its lower case then stands in the lower
case of the text (`Declaration.mentions_of_mem_parents`), and a name that is found has the lower
case of the name that was looked for (`Catalog.of_named?_eq_some`).
-/

namespace GoIndex

open Text

/-! ### Parents -/

theorem isAscii_of_isEmbedded {line : Line} (h : isEmbedded line) : isAscii line := by
  rw [isEmbedded, Bool.and_eq_true, List.all_eq_true] at h
  rw [isAscii, List.all_eq_true]
  intro c hc
  have hword : (c.isUpper || c.isLower || c.isDigit || c == '_') = true := h.2 c hc
  rw [decide_eq_true_eq]
  simp only [Bool.or_eq_true, beq_iff_eq] at hword
  -- each class ends at a character of its own
  rcases hword with ((hupper | hlower) | hdigit) | rfl
  · have hle : c.val ≤ 'Z'.val := (of_decide_eq_true hupper).2
    exact Nat.lt_of_le_of_lt (UInt32.le_iff_toNat_le.mp hle) (by decide)
  · have hle : c.val ≤ 'z'.val := of_decide_eq_true (Bool.and_eq_true_iff.mp hlower).2
    exact Nat.lt_of_le_of_lt (UInt32.le_iff_toNat_le.mp hle) (by decide)
  · have hle : c.val ≤ '9'.val := of_decide_eq_true (Bool.and_eq_true_iff.mp hdigit).2
    exact Nat.lt_of_le_of_lt (UInt32.le_iff_toNat_le.mp hle) (by decide)
  · decide

namespace Declaration

variable {d : Declaration} {name : String}

/-- The parents of a type are the names that stand alone on lines of its text. -/
theorem mem_parents_iff :
    name ∈ d.parents ↔ d.kind.isType ∧ isEmbedded name.toList ∧
      ∃ line ∈ d.text.toList.splitOn '\n', trim line = name.toList := by
  rw [parents]
  split
  · rename_i hkind
    simp only [mem_ascending, List.mem_map, List.mem_filter, hkind, true_and]
    constructor
    · rintro ⟨_, ⟨⟨line, hline, rfl⟩, hembedded⟩, rfl⟩
      rw [String.toList_ofList]
      exact ⟨hembedded, line, hline, rfl⟩
    · rintro ⟨hembedded, line, hline, htrim⟩
      exact ⟨name.toList, ⟨⟨line, hline, htrim⟩, hembedded⟩, String.ofList_toList⟩
  · rename_i hkind
    simp [hkind]

/-- A parent is mentioned. -/
theorem mentions_of_mem_parents (h : name ∈ d.parents) : d.mentions name := by
  obtain ⟨-, hembedded, line, hline, htrim⟩ := mem_parents_iff.mp h
  have hstretch : name.toList <:+: d.text.toList := by
    rw [← htrim]
    exact (isInfix_trim line).trans (infix_of_mem_splitOn hline)
  exact occursIn_iff.mpr (isInfix_lowerChars (isAscii_of_isEmbedded hembedded) hstretch)

/-- Whether a name is mentioned depends on its lower case only. -/
theorem mentions_congr {other : String} (h : lower name = lower other) :
    d.mentions name = d.mentions other := by
  have hchars : lowerChars name.toList = lowerChars other.toList := String.ofList_inj.mp h
  rw [mentions, mentions, hchars]

theorem pairwise_parents (d : Declaration) : d.parents.Pairwise (· < ·) := by
  rw [parents]
  split
  · exact pairwise_ascending _
  · exact .nil

end Declaration

/-! ### Children -/

namespace Catalog

variable {catalog : Catalog} {name : String}

/-- The children of a name are the other declarations that mention it. -/
theorem mem_children_iff {child : String} :
    child ∈ catalog.children name ↔
      ∃ d ∈ catalog, d.name = child ∧ child ≠ name ∧ d.mentions name := by
  simp only [children, mem_ascending, List.mem_map, List.mem_filter, Bool.and_eq_true, bne_iff_ne]
  constructor
  · rintro ⟨d, ⟨hd, hne, hmentions⟩, rfl⟩
    exact ⟨d, hd, rfl, hne, hmentions⟩
  · rintro ⟨d, hd, rfl, hne, hmentions⟩
    exact ⟨d, ⟨hd, hne, hmentions⟩, rfl⟩

/-- What a name finds is declared, under that name in some case. -/
theorem of_named?_eq_some {d : Declaration} (h : catalog.named? name = some d) :
    d ∈ catalog ∧ lower d.name = lower name := by
  rw [named?] at h
  split at h
  · rename_i found hexact
    obtain rfl := Option.some.inj h
    refine ⟨List.mem_of_find?_eq_some hexact, ?_⟩
    have hname := List.find?_some hexact
    rw [eq_of_beq hname]
  · refine ⟨List.mem_of_find?_eq_some h, ?_⟩
    have hname := List.find?_some h
    exact eq_of_beq hname

/-- A name finds nothing when no declaration has it in any case. -/
theorem named?_eq_none_iff :
    catalog.named? name = none ↔ ∀ d ∈ catalog, lower d.name ≠ lower name := by
  rw [named?]
  split
  · next d hd =>
    have hmem := List.mem_of_find?_eq_some hd
    have hname : d.name = name := by simpa using List.find?_some hd
    simp only [reduceCtorEq, false_iff]
    intro h
    exact h d hmem (by rw [hname])
  · simp [List.find?_eq_none]

theorem of_relations?_eq_some {r : Relations} (h : catalog.relations? name = some r) :
    catalog.named? name = some r.target ∧ r.parents = r.target.parents ∧
      r.children = catalog.children r.target.name := by
  obtain ⟨target, htarget, rfl⟩ := Option.map_eq_some_iff.mp h
  exact ⟨htarget, rfl, rfl⟩

/-- **Parents and children are dual**, in every catalog: what embeds a name is a child of the
declaration that the name finds, unless the two have one name. Parents and children ascend strictly,
and nothing is its own child. -/
theorem relations_dual (catalog : Catalog) {name : String} {r : Relations}
    (h : catalog.relations? name = some r) :
    (∀ P ∈ r.parents, ∀ s, catalog.relations? P = some s → s.target.name ≠ r.target.name →
      r.target.name ∈ s.children) ∧
    r.parents.Pairwise (· < ·) ∧ r.children.Pairwise (· < ·) ∧ r.target.name ∉ r.children := by
  obtain ⟨htarget, hparents, hchildren⟩ := of_relations?_eq_some h
  refine ⟨fun P hP s hs hne => ?_, ?_, ?_, ?_⟩
  · obtain ⟨hfound, -, hsiblings⟩ := of_relations?_eq_some hs
    rw [hparents] at hP
    -- the text mentions `P`, and the declaration found has the name `P` up to case
    have hmentions : r.target.mentions s.target.name := by
      rw [Declaration.mentions_congr (of_named?_eq_some hfound).2]
      exact Declaration.mentions_of_mem_parents hP
    rw [hsiblings]
    exact mem_children_iff.mpr
      ⟨r.target, (of_named?_eq_some htarget).1, rfl, hne.symm, hmentions⟩
  · rw [hparents]
    exact r.target.pairwise_parents
  · rw [hchildren]
    exact pairwise_ascending _
  · rw [hchildren]
    intro hself
    obtain ⟨-, -, -, hne, -⟩ := mem_children_iff.mp hself
    exact hne rfl

/-- Two interfaces, of which the first embeds the second under another spelling. -/
private def readers : Catalog :=
  let blank : Declaration :=
    { name := "", kind := .interface, sourceFile := "io.go", module := "root", signature := "",
      lineNumber := 1 }
  [{ blank with
      name := "ReadWriter"
      fullBlock := some "type ReadWriter interface \x7b\n\tREADER\n\x7d" },
    { blank with
      name := "Reader"
      fullBlock := some "type Reader interface \x7b\n\x7d" }]

/-- Looked up as `readwriter`, the first has the parent `READER`; looked up as `READER`, the second
has the first among its children. -/
theorem relations_dual_readers :
    (readers.relations? "readwriter").map (fun r => (r.target.name, r.parents)) =
      some ("ReadWriter", ["READER"]) ∧
    ∃ s, readers.relations? "READER" = some s ∧ s.target.name = "Reader" ∧
      "ReadWriter" ∈ s.children := by
  refine ⟨by decide +kernel, ?_⟩
  have hdual := (relations_dual readers (show readers.relations? "readwriter" = some _ from rfl)).1
  exact ⟨_, rfl, by decide +kernel, hdual "READER" (by decide +kernel) _ rfl (by decide +kernel)⟩

end Catalog

end GoIndex
