import Mathlib.Data.List.Nodup
import Mathlib.Data.Prod.Lex
import Mathlib.Data.String.Basic
import GoIndex.Catalog.Ranking
import GoIndex.Catalog.Summary

/-!
# Answers that do not depend on the order of a catalog

A catalog lists its declarations in the order of a walk, and a walk may meet files in any order.
`SameAnswers` names the answers that must not show it, and `sameAnswers_of_perm` proves them equal
for any two arrangements of one catalog in which no two declarations stand at the same place.

Every answer comes from one of three sources. Counts do not see an order. Sorted names are settled
by the order of strings. Hits are sorted by a **key** of four parts (`Hit.key`); the last two are
the place of the declaration, so that two hits with one key are one hit. Highlights are sorted by a
key that may well be shared (`Declaration.highlightKey`), so only the keys of the highlights are
settled.
-/

namespace GoIndex

open Text

/-! ### Sorting by a key -/

section Sorting

variable {α κ : Type} [LinearOrder κ] {before : α → α → Bool} {key : α → κ}

/-- Sorting by a key leaves the keys in ascending order. -/
theorem pairwise_key_mergeSort (hbefore : ∀ a b, before a b = true ↔ key a ≤ key b)
    (xs : List α) : ((xs.mergeSort before).map key).Pairwise (· ≤ ·) := by
  have hsorted : (xs.mergeSort before).Pairwise fun a b => before a b = true := by
    refine List.pairwise_mergeSort (fun a b c hab hbc => ?_) (fun a b => ?_) xs
    · rw [hbefore] at hab hbc ⊢
      exact hab.trans hbc
    · rw [Bool.or_eq_true, hbefore, hbefore]
      exact le_total (key a) (key b)
  exact List.pairwise_map.mpr (hsorted.imp fun h => (hbefore _ _).mp h)

/-- The keys of a sorted list are settled by its members. -/
theorem map_key_mergeSort_of_perm (hbefore : ∀ a b, before a b = true ↔ key a ≤ key b)
    {xs ys : List α} (hperm : xs.Perm ys) :
    (xs.mergeSort before).map key = (ys.mergeSort before).map key := by
  refine List.Perm.eq_of_pairwise (fun _ _ _ _ => le_antisymm)
    (pairwise_key_mergeSort hbefore xs) (pairwise_key_mergeSort hbefore ys) ?_
  exact (((List.mergeSort_perm xs before).trans hperm).trans
    (List.mergeSort_perm ys before).symm).map key

/-- A sorted list is settled by its members when no two of them share a key. -/
theorem mergeSort_of_perm (hbefore : ∀ a b, before a b = true ↔ key a ≤ key b) {xs ys : List α}
    (hperm : xs.Perm ys) (hkey : ∀ a ∈ xs, ∀ b ∈ xs, key a = key b → a = b) :
    xs.mergeSort before = ys.mergeSort before := by
  have hsorted : ∀ zs : List α, (zs.mergeSort before).Pairwise fun a b => key a ≤ key b :=
    fun zs => List.pairwise_map.mp (pairwise_key_mergeSort hbefore zs)
  refine List.Perm.eq_of_pairwise (fun a b ha hb hab hba => ?_) (hsorted xs) (hsorted ys)
    (((List.mergeSort_perm xs before).trans hperm).trans (List.mergeSort_perm ys before).symm)
  rw [List.mem_mergeSort] at ha hb
  exact hkey a ha b (hperm.mem_iff.mpr hb) (le_antisymm hab hba)

end Sorting

/-! ### Names -/

theorem sorted_of_perm {xs ys : List String} (hperm : xs.Perm ys) : sorted xs = sorted ys := by
  have hbefore : ∀ a b : String, decide (a ≤ b) = true ↔ id a ≤ id b :=
    fun _ _ => decide_eq_true_iff
  exact mergeSort_of_perm hbefore hperm fun _ _ _ _ h => h

theorem ascending_of_perm {xs ys : List String} (hperm : xs.Perm ys) :
    ascending xs = ascending ys := by
  rw [ascending, ascending, sorted_of_perm hperm]

/-! ### Keys -/

/-- What hits are sorted by: falling score, then name, file and line. -/
def Hit.key (hit : Hit) : ℕᵒᵈ ×ₗ String ×ₗ String ×ₗ ℤ :=
  toLex (OrderDual.toDual hit.score, toLex (hit.declaration.name,
    toLex (hit.declaration.sourceFile, hit.declaration.lineNumber)))

theorem Hit.before_iff (a b : Hit) : a.before b = true ↔ a.key ≤ b.key := by
  simp [Hit.before, Hit.key, Prod.Lex.toLex_le_toLex]

/-- What highlights are sorted by: falling interest, then name. -/
def Declaration.highlightKey (d : Declaration) : ℕᵒᵈ ×ₗ String :=
  toLex (OrderDual.toDual d.interest, d.name)

theorem Declaration.outshines_iff (a b : Declaration) :
    a.outshines b = true ↔ a.highlightKey ≤ b.highlightKey := by
  simp [Declaration.outshines, Declaration.highlightKey, Prod.Lex.toLex_le_toLex]

/-- Where a declaration stands. -/
def Declaration.place (d : Declaration) : String × Int :=
  (d.sourceFile, d.lineNumber)

/-! ### Answers -/

/-- Two catalogs give the same answers to every question that should not see an order. -/
structure SameAnswers (P Q : Catalog) : Prop where
  search : ∀ query limit scope, P.search query limit scope = Q.search query limit scope
  topic : ∀ about limit, P.topic about limit = Q.topic about limit
  modules : P.modules = Q.modules
  libraryStatistics : P.libraryStatistics = Q.libraryStatistics
  statistics : ∀ module, P.statistics module = Q.statistics module
  summaryTotal : ∀ module limit, (P.summary module limit).total = (Q.summary module limit).total
  summaryCounts : ∀ module limit, (P.summary module limit).counts = (Q.summary module limit).counts
  summaryFiles : ∀ module limit, (P.summary module limit).files = (Q.summary module limit).files
  highlights : ∀ module limit,
    (P.summary module limit).highlights.map (fun d => (d.interest, d.name)) =
      (Q.summary module limit).highlights.map fun d => (d.interest, d.name)

section Answers

variable {P Q : Catalog}

private theorem search_of_perm (hperm : P.Perm Q) (hplace : (Q.map Declaration.place).Nodup)
    (query : String) (limit : Int) (scope : Scope) :
    P.search query limit scope = Q.search query limit scope := by
  rw [Catalog.search, Catalog.search]
  congr 1
  refine mergeSort_of_perm Hit.before_iff (((hperm.filter _).map _).filter _) ?_
  intro a ha b hb hkey
  obtain ⟨d, hd, rfl⟩ := List.mem_map.mp (List.mem_filter.mp ha).1
  obtain ⟨e, he, rfl⟩ := List.mem_map.mp (List.mem_filter.mp hb).1
  have hdQ : d ∈ Q := hperm.mem_iff.mp (List.mem_filter.mp hd).1
  have heQ : e ∈ Q := hperm.mem_iff.mp (List.mem_filter.mp he).1
  -- the last two parts of the key are the place
  have hsame : d.place = e.place := congrArg (fun k => ofLex (ofLex (ofLex k).2).2) hkey
  rw [List.inj_on_of_nodup_map hplace hdQ heQ hsame]

private theorem counts_of_perm (hperm : P.Perm Q) : P.counts = Q.counts :=
  funext fun _ => hperm.countP_eq _

private theorem moduleStatistics_of_perm (module : String) (hperm : P.Perm Q) :
    ModuleStatistics.of module P = ModuleStatistics.of module Q := by
  rw [ModuleStatistics.of, ModuleStatistics.of, counts_of_perm hperm, hperm.length_eq]

private theorem modules_of_perm (hperm : P.Perm Q) : P.modules = Q.modules :=
  ascending_of_perm (hperm.map _)

private theorem firstNames_of_perm (hperm : P.Perm Q) (count : Nat) :
    P.firstNames count = Q.firstNames count := by
  rw [Catalog.firstNames, Catalog.firstNames, sorted_of_perm (hperm.map _)]

private theorem libraryStatistics_of_perm (hperm : P.Perm Q) :
    P.libraryStatistics = Q.libraryStatistics := by
  have hmodules : (P.modules.map fun m => ModuleStatistics.of m (List.filter (·.module == m) P)) =
      Q.modules.map fun m => ModuleStatistics.of m (List.filter (·.module == m) Q) := by
    rw [modules_of_perm hperm]
    exact List.map_congr_left fun m _ => moduleStatistics_of_perm m (hperm.filter _)
  simp only [Catalog.libraryStatistics, LibraryStatistics.mk.injEq]
  exact ⟨hperm.length_eq, counts_of_perm hperm, hmodules, firstNames_of_perm (hperm.filter _) 15,
    firstNames_of_perm (hperm.filter _) 20, firstNames_of_perm (hperm.filter _) 20⟩

private theorem highlights_of_perm (hperm : P.Perm Q) (module : String) (limit : Int) :
    (P.summary module limit).highlights.map (fun d => (d.interest, d.name)) =
      (Q.summary module limit).highlights.map fun d => (d.interest, d.name) := by
  have hkeys := map_key_mergeSort_of_perm Declaration.outshines_iff
    (hperm.filter fun d => lower d.module == lower module)
  have hpairs := congrArg (List.map fun k => (OrderDual.ofDual (ofLex k).1, (ofLex k).2)) hkeys
  rw [List.map_map, List.map_map] at hpairs
  simp only [Catalog.summary, Catalog.inModule, atMost, List.map_take]
  exact congrArg (List.take _) hpairs

/-- **Order plays no part**: any arrangement of a catalog gives the same answers, as long as no two
of its declarations stand at the same place. -/
theorem sameAnswers_of_perm (hperm : P.Perm Q) (hplace : (Q.map Declaration.place).Nodup) :
    SameAnswers P Q where
  search := search_of_perm hperm hplace
  topic about limit := by
    rw [Catalog.topic, Catalog.topic, search_of_perm hperm hplace]
  modules := modules_of_perm hperm
  libraryStatistics := libraryStatistics_of_perm hperm
  statistics module := moduleStatistics_of_perm module (hperm.filter _)
  summaryTotal _ _ := (hperm.filter _).length_eq
  summaryCounts _ _ := counts_of_perm (hperm.filter _)
  summaryFiles _ _ := ascending_of_perm ((hperm.filter _).map _)
  highlights := highlights_of_perm hperm

end Answers

end GoIndex
