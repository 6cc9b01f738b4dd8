import Mathlib.Algebra.GroupWithZero.Nat
import Mathlib.Data.List.Basic
import Mathlib.Data.String.Basic
import GoIndex.Catalog.Summary

/-!
# Statistics add up

The statistics of a catalog have one row for every module, told apart by its exact name, while a
question about a module takes the name in any case. Still both count every declaration once. Keys
part a list into **fibers**, and what is counted in the fibers of distinct keys is what is counted
under these keys in the whole list (`sum_countP_fibers`). The fibers of the modules give the rows of
a library (`countsOf_rows`, `totalOf_rows`), and the fibers of the kinds give the counts of a row
(`sum_counts`).
-/

namespace GoIndex

open Text

/-! ### Fibers -/

/-- What is counted in the fibers of distinct keys is counted once. -/
theorem sum_countP_fibers {α κ : Type} [DecidableEq κ] (key : α → κ) (p : α → Bool) (xs : List α)
    {keys : List κ} (hkeys : keys.Nodup) :
    (keys.map fun k => (xs.filter (key · == k)).countP p).sum =
      xs.countP fun x => p x && decide (key x ∈ keys) := by
  induction keys with
  | nil => simp
  | cons k keys ih =>
    obtain ⟨hk, hrest⟩ := List.nodup_cons.mp hkeys
    -- the first key has its own fiber, and the other keys have theirs in what is left
    have hfirst : (xs.filter (key · == k)).countP (fun x => p x && decide (key x ∈ k :: keys)) =
        (xs.filter (key · == k)).countP p := by
      refine List.countP_congr fun x hx => ?_
      obtain rfl : key x = k := by simpa using (List.mem_filter.mp hx).2
      simp
    have hothers : (xs.filter fun x => !(key x == k)).countP
        (fun x => p x && decide (key x ∈ k :: keys)) =
          xs.countP fun x => p x && decide (key x ∈ keys) := by
      rw [List.countP_filter]
      refine List.countP_congr fun x _ => ?_
      have hne : key x ∈ keys → key x ≠ k := fun hmem heq => hk (heq ▸ hmem)
      by_cases hx : key x = k <;> simp_all
    rw [List.map_cons, List.sum_cons, ih hrest, ← hfirst, ← hothers]
    exact (List.countP_eq_countP_filter_add xs _ _).symm

/-! ### Rows -/

/-- The counts of several modules together, kind by kind. -/
def countsOf (rows : List ModuleStatistics) : Counts :=
  fun kind => (rows.map (·.counts kind)).sum

/-- The totals of several modules together. -/
def totalOf (rows : List ModuleStatistics) : Nat :=
  (rows.map (·.total)).sum

namespace Catalog

section Rows

variable (catalog : Catalog)

/-- The row of a module, under its exact name. -/
def row (module : String) : ModuleStatistics :=
  .of module (List.filter (·.module == module) catalog)

theorem modules_libraryStatistics :
    catalog.libraryStatistics.modules = catalog.modules.map catalog.row := rfl

theorem mem_modules {module : String} :
    module ∈ catalog.modules ↔ ∃ d ∈ catalog, d.module = module := by
  rw [modules, mem_ascending, List.mem_map]

theorem nodup_modules : catalog.modules.Nodup :=
  (pairwise_ascending _).imp fun h => ne_of_lt h

/-- Every declaration is of one kind. -/
theorem sum_counts : (Kind.all.map catalog.counts).sum = List.length catalog := by
  have hfibers := sum_countP_fibers Declaration.kind (fun _ => true) catalog Kind.nodup_all
  have hcounts : (fun kind => (List.filter (·.kind == kind) catalog).countP fun _ => true) =
      catalog.counts := by
    funext kind
    rw [List.countP_true, counts, List.countP_eq_length_filter]
  rw [hcounts] at hfibers
  simpa [Kind.mem_all] using hfibers

/-- What is counted in the fibers of the modules with a property is counted in the declarations of
these modules. -/
theorem sum_countP_modules (p : Declaration → Bool) (q : String → Bool) :
    ((catalog.modules.filter q).map fun module =>
        (List.filter (·.module == module) catalog).countP p).sum =
      (List.filter (q ·.module) catalog).countP p := by
  rw [sum_countP_fibers Declaration.module p catalog (catalog.nodup_modules.filter q),
    List.countP_filter]
  refine List.countP_congr fun d hd => ?_
  have hmem : d.module ∈ catalog.modules := catalog.mem_modules.mpr ⟨d, hd, rfl⟩
  simp [List.mem_filter, hmem]

/-- The rows of the modules with a property. -/
theorem filter_rows (q : String → Bool) :
    catalog.libraryStatistics.modules.filter (q ·.module) =
      (catalog.modules.filter q).map catalog.row := by
  rw [modules_libraryStatistics, List.filter_map]
  rfl

theorem countsOf_rows (q : String → Bool) :
    countsOf (catalog.libraryStatistics.modules.filter (q ·.module)) =
      Catalog.counts (List.filter (q ·.module) catalog) := by
  funext kind
  rw [filter_rows, countsOf, List.map_map]
  exact catalog.sum_countP_modules (·.kind == kind) q

theorem totalOf_rows (q : String → Bool) :
    totalOf (catalog.libraryStatistics.modules.filter (q ·.module)) =
      (List.filter (q ·.module) catalog).length := by
  have htotals := catalog.sum_countP_modules (fun _ => true) q
  simp only [List.countP_true] at htotals
  rw [filter_rows, totalOf, List.map_map]
  exact htotals

/-- A row counts the declarations of its module, and there is one at least. -/
theorem of_mem_rows {r : ModuleStatistics} (hr : r ∈ catalog.libraryStatistics.modules) :
    0 < r.total ∧ r.total = (Kind.all.map r.counts).sum := by
  rw [modules_libraryStatistics, List.mem_map] at hr
  obtain ⟨module, hmodule, rfl⟩ := hr
  obtain ⟨d, hd, hdmodule⟩ := catalog.mem_modules.mp hmodule
  refine ⟨?_, (sum_counts _).symm⟩
  exact List.length_pos_of_mem (List.mem_filter.mpr ⟨hd, beq_iff_eq.mpr hdmodule⟩)

end Rows

/-- **Statistics add up.** The rows of a library are those of its modules, in strictly ascending
order. No row is empty, and every total is the sum of the counts of all kinds. Together the rows
give the counts and the total of the library, and the rows whose modules have one name in any case
give the counts and the total of what is known under that name. -/
theorem libraryStatistics_adds_up (catalog : Catalog) :
    let library := catalog.libraryStatistics
    (library.modules.map (·.module)).Pairwise (· < ·) ∧
    library.modules.map (·.module) = catalog.modules ∧
    (∀ row ∈ library.modules, 0 < row.total ∧ row.total = (Kind.all.map row.counts).sum) ∧
    library.counts = countsOf library.modules ∧ library.total = totalOf library.modules ∧
    ∀ module,
      let rows := library.modules.filter fun row => lower row.module == lower module
      (catalog.statistics module).counts = countsOf rows ∧
      (catalog.statistics module).total = totalOf rows ∧
      ∀ limit, (catalog.summary module limit).counts = countsOf rows ∧
        (catalog.summary module limit).total = totalOf rows := by
  intro library
  have hnames : library.modules.map (·.module) = catalog.modules := by
    rw [modules_libraryStatistics, List.map_map]
    exact List.map_id _
  refine ⟨?_, hnames, fun r hr => catalog.of_mem_rows hr, ?_, ?_, fun module => ?_⟩
  · rw [hnames]
    exact pairwise_ascending _
  · have hcounts := catalog.countsOf_rows fun _ => true
    rw [List.filter_true, List.filter_true] at hcounts
    exact hcounts.symm
  · have htotal := catalog.totalOf_rows fun _ => true
    rw [List.filter_true, List.filter_true] at htotal
    exact htotal.symm
  · have hcounts := (catalog.countsOf_rows fun name => lower name == lower module).symm
    have htotal := (catalog.totalOf_rows fun name => lower name == lower module).symm
    exact ⟨hcounts, htotal, fun limit => ⟨hcounts, htotal⟩⟩

end Catalog

end GoIndex
