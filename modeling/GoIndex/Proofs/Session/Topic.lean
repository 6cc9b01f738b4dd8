import Mathlib.Algebra.BigOperators.Group.List.Lemmas
import Mathlib.Algebra.GroupWithZero.Nat
import GoIndex.Proofs.Catalog.Ranking
import GoIndex.Proofs.Session.Run

/-!
# Exploring a topic

A topic is explored by a search, and what is found is counted by module and by kind. Counts stand
in a **tally**: one row for every label that occurs, with the number of its occurrences, by falling
count, and among equal counts in the order in which the labels appear first. These rules leave one
list of rows only (`isTally_iff`). Rows are counted first and sorted afterwards, so the order among
equal counts is a matter of a stable sort (`pairwise_mergeSort_of_pairwise`).

A session explores a topic whenever it answers the search, with the same hits, and both of its
tallies are tallies of these hits (`Session.topic_tallies_search`).
-/

namespace GoIndex

/-! ### Tallies -/

section Tally

variable {α : Type} [DecidableEq α] {xs : List α} {rows : List (α × Nat)}

/-- Whether rows of labels and counts are the tally of a list of labels. -/
structure IsTally (xs : List α) (rows : List (α × Nat)) : Prop where
  nodup : (rows.map Prod.fst).Nodup
  mem_iff : ∀ x, x ∈ rows.map Prod.fst ↔ x ∈ xs
  count_eq : ∀ row ∈ rows, row.2 = xs.count row.1
  ordered : rows.Pairwise fun a b =>
    b.2 < a.2 ∨ a.2 = b.2 ∧ xs.idxOf a.1 < xs.idxOf b.1

namespace IsTally

/-- The rows of a tally are its labels with their counts. -/
theorem eq_map (h : IsTally xs rows) :
    rows = (rows.map Prod.fst).map fun x => (x, xs.count x) := by
  rw [List.map_map]
  refine (List.map_id rows).symm.trans (List.map_congr_left fun row hrow => ?_)
  exact Prod.ext rfl (h.count_eq row hrow)

/-- The labels of a tally are those of any list that has each of them once. -/
theorem perm (h : IsTally xs rows) {labels : List α} (hnodup : labels.Nodup)
    (hmem : ∀ x, x ∈ labels ↔ x ∈ xs) : (rows.map Prod.fst).Perm labels :=
  (List.perm_ext_iff_of_nodup h.nodup hnodup).mpr fun x => (h.mem_iff x).trans (hmem x).symm

/-- No row counts nothing. -/
theorem pos (h : IsTally xs rows) : ∀ row ∈ rows, 0 < row.2 := by
  intro row hrow
  have hlabel : row.1 ∈ xs := (h.mem_iff row.1).mp (List.mem_map_of_mem hrow)
  rw [h.count_eq row hrow]
  exact List.count_pos_iff.mpr hlabel

/-- The counts add up to the number of labels. -/
theorem sum_eq (h : IsTally xs rows) : (rows.map Prod.snd).sum = xs.length := by
  have hperm := h.perm xs.nodup_dedup fun x => List.mem_dedup
  calc (rows.map Prod.snd).sum
      = ((rows.map Prod.fst).map xs.count).sum := by
        rw [List.map_map]
        exact congrArg List.sum (List.map_congr_left h.count_eq)
    _ = (xs.dedup.map xs.count).sum := (hperm.map xs.count).sum_eq
    _ = xs.length := List.sum_map_count_dedup_eq_length xs

/-- Two tallies of one list are the same. -/
theorem unique {others : List (α × Nat)} (h : IsTally xs rows) (hothers : IsTally xs others) :
    rows = others := by
  have hperm : rows.Perm others := by
    rw [h.eq_map, hothers.eq_map]
    exact (h.perm hothers.nodup hothers.mem_iff).map _
  refine hperm.eq_of_pairwise (fun a b _ _ hab hba => ?_) h.ordered hothers.ordered
  -- no row can stand on both sides of another
  omega

end IsTally

/-- Without repetitions, labels stand in the order in which they appear first. -/
theorem pairwise_idxOf_eraseDups (xs : List α) :
    xs.eraseDups.Pairwise fun a b => xs.idxOf a < xs.idxOf b := by
  induction xs using List.reverseRecOn with
  | nil => exact .nil
  | append_singleton xs x ih =>
    -- one more label at the end moves none of those before it
    have hold : xs.eraseDups.Pairwise fun a b => (xs ++ [x]).idxOf a < (xs ++ [x]).idxOf b := by
      refine ih.imp_of_mem fun {a b} ha hb hlt => ?_
      rw [List.idxOf_append_of_mem (List.mem_eraseDups.mp ha),
        List.idxOf_append_of_mem (List.mem_eraseDups.mp hb)]
      exact hlt
    rw [List.eraseDups_append]
    by_cases hx : x ∈ xs
    · have hnone : [x].removeAll xs = [] := by simp [List.removeAll, hx]
      rw [hnone, List.eraseDups_nil, List.append_nil]
      exact hold
    · have hnew : ([x].removeAll xs).eraseDups = [x] := by
        simp [List.removeAll, hx, List.eraseDups_cons]
      rw [hnew, List.pairwise_append]
      refine ⟨hold, List.pairwise_singleton _ x, fun a ha b hb => ?_⟩
      obtain rfl := List.mem_singleton.mp hb
      have hmem : a ∈ xs := List.mem_eraseDups.mp ha
      have hlt := List.idxOf_lt_length_of_mem hmem
      rw [List.idxOf_append_of_mem hmem, List.idxOf_append_of_notMem hx]
      omega

theorem isTally_tally (xs : List α) : IsTally xs (tally xs) := by
  have hbefore : ∀ a b : α × Nat,
      decide (b.2 ≤ a.2) = true ↔ OrderDual.toDual a.2 ≤ OrderDual.toDual b.2 :=
    fun a b => decide_eq_true_iff
  have hperm : (tally xs).Perm (xs.eraseDups.map fun x => (x, xs.count x)) :=
    List.mergeSort_perm _ _
  have hlabels : ((tally xs).map Prod.fst).Perm xs.eraseDups := by
    have hfirst := hperm.map Prod.fst
    rw [List.map_map] at hfirst
    exact hfirst.trans (List.Perm.of_eq (List.map_id _))
  refine ⟨hlabels.nodup_iff.mpr (nodup_eraseDups xs), fun x => ?_, fun row hrow => ?_, ?_⟩
  · rw [hlabels.mem_iff, List.mem_eraseDups]
  · obtain ⟨x, -, rfl⟩ := List.mem_map.mp (hperm.mem_iff.mp hrow)
    rfl
  · refine pairwise_mergeSort_of_pairwise hbefore ?_
    exact List.pairwise_map.mpr (pairwise_idxOf_eraseDups xs)

/-- **One tally**: its rules leave one list of rows only. -/
theorem isTally_iff : IsTally xs rows ↔ rows = tally xs := by
  constructor
  · intro h
    exact h.unique (isTally_tally xs)
  · rintro rfl
    exact isTally_tally xs

end Tally

/-! ### Topics -/

namespace Session

/-- **Exploring a topic** is a search and two tallies of what it finds. It fails as the search
fails; otherwise it has the hits of the search, and its rows are the one tally of their modules and
the one tally of their kinds. So every module and every kind among the hits stands in one row with
the number of its hits, no row counts nothing, and the rows of either tally add up to all hits. -/
theorem topic_tallies_search (session : Session) (about : String) (limit : Int) :
    let explored := (session.step (.ask (.topic about limit))).2
    let searched := (session.step (.ask (.search about limit {}))).2
    (∃ fault, explored = .error fault ∧ searched = .error fault) ∨
    ∃ topic : Topic, explored = .ok (.answer (.topic topic)) ∧
      searched = .ok (.answer (.hits topic.hits)) ∧ topic.topic = about ∧
      (∀ rows, IsTally (topic.hits.map (·.declaration.module)) rows ↔ rows = topic.modules) ∧
      (∀ rows, IsTally (topic.hits.map (·.declaration.kind)) rows ↔ rows = topic.kinds) ∧
      (∀ row ∈ topic.modules, 0 < row.2) ∧ (∀ row ∈ topic.kinds, 0 < row.2) ∧
      (topic.modules.map Prod.snd).sum = topic.hits.length ∧
      (topic.kinds.map Prod.snd).sum = topic.hits.length := by
  intro explored searched
  have hexplored := session.step_ask (.topic about limit)
  have hsearched := session.step_ask (.search about limit {})
  rcases hcatalog : session.index.catalog session.tree with fault | catalog
  · rw [hcatalog] at hexplored hsearched
    exact .inl ⟨fault, hexplored, hsearched⟩
  · rw [hcatalog] at hexplored hsearched
    have hmodules := isTally_tally ((catalog.search about limit {}).map (·.declaration.module))
    have hkinds := isTally_tally ((catalog.search about limit {}).map (·.declaration.kind))
    exact .inr ⟨catalog.topic about limit, hexplored, hsearched, rfl, fun rows => isTally_iff,
      fun rows => isTally_iff, hmodules.pos, hkinds.pos, hmodules.sum_eq.trans (List.length_map _),
      hkinds.sum_eq.trans (List.length_map _)⟩

end Session

end GoIndex
