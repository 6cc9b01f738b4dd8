import Mathlib.Order.Bounds.Basic
import GoIndex.Proofs.Source.Block

/-!
# Where a captured block ends

A block that is captured at a position ends with the first line behind which something has been
opened and as much has been closed as opened, and with the last line of all when there is no such
line (`captureAt?_ends_first`). The reader keeps a balance, which may well fall below zero on the
way, and a mark that something was opened; both are settled by the characters between the position
and the line (`closesAt_iff`), and so an end is told without a reader.
-/

namespace GoIndex.Source

open Text

variable {o c : Char} {lines : List Line} {start last : Nat}

/-! ### Ends of a block -/

/-- The lines from one position to another, both included. -/
def linesBetween (lines : List Line) (start last : Nat) : List Line :=
  (lines.drop start).take (last + 1 - start)

theorem length_linesBetween (hlast : last < lines.length) :
    (linesBetween lines start last).length = last + 1 - start := by
  rw [linesBetween, List.length_take, List.length_drop]
  omega

/-- Whether a block that starts at a position can end at another: in between something is opened,
and all of it is closed. -/
structure ClosesAt (o c : Char) (lines : List Line) (start last : Nat) : Prop where
  start_le : start ≤ last
  lt_length : last < lines.length
  opens : o ∈ (linesBetween lines start last).flatten
  count_eq : (linesBetween lines start last).flatten.count o =
    (linesBetween lines start last).flatten.count c

/-- A block can end where its balance is closed. -/
theorem closesAt_iff (hne : o ≠ c) (hstart : start ≤ last) (hlast : last < lines.length) :
    ClosesAt o c lines start last ↔
      (Balance.behindAll ⟨some o, some c⟩ {} (linesBetween lines start last)).isClosed := by
  rw [Balance.isClosed_behindAll_iff hne]
  exact ⟨fun h => ⟨h.opens, h.count_eq⟩, fun h => ⟨hstart, hlast, h.1, h.2⟩⟩

/-! ### What is captured -/

/-- From a position among the lines one line is taken at least. -/
theorem exists_takeBlock_eq (d : Delimiters) (hstart : start < lines.length) :
    ∃ last, start ≤ last ∧ last < lines.length ∧
      (takeBlock d (lines.drop start)).1 = linesBetween lines start last := by
  have happend := takeBlockFrom_append d {} (lines.drop start)
  have hleft := length_takeBlockFrom_lt d {} lines[start] (lines.drop (start + 1))
  rw [List.getElem_cons_drop, List.length_drop] at hleft
  rw [← takeBlock] at happend hleft
  have hlength := congrArg List.length happend
  rw [List.length_append, List.length_drop] at hlength
  refine ⟨start + (takeBlock d (lines.drop start)).1.length - 1, by omega, by omega, ?_⟩
  have hcount : start + (takeBlock d (lines.drop start)).1.length - 1 + 1 - start =
      (takeBlock d (lines.drop start)).1.length := by omega
  rw [linesBetween, hcount]
  exact List.prefix_iff_eq_take.mp ⟨_, happend⟩

/-- What is taken is captured, with the position of its last line. -/
theorem captureAt?_eq {d : Delimiters} (hstart : start ≤ last) (hlast : last < lines.length)
    (htaken : (takeBlock d (lines.drop start)).1 = linesBetween lines start last) :
    captureAt? d lines start = some ⟨unlines (linesBetween lines start last), last⟩ := by
  have hlength : (linesBetween lines start last).length = last + 1 - start :=
    length_linesBetween hlast
  have hfrom : linesFrom? lines start = some (lines.drop start) := by
    rw [linesFrom?, if_pos (Int.natCast_nonneg start), Int.toNat_natCast]
  have hempty : (linesBetween lines start last).isEmpty = false := by
    rw [List.isEmpty_eq_false_iff]
    exact List.ne_nil_of_length_pos (by omega)
  have hend : (start : Int) + (linesBetween lines start last).length - 1 = last := by omega
  rw [captureAt?, hfrom, Option.bind_eq_bind, Option.bind_some, htaken]
  simp only [hempty, Bool.false_eq_true, if_false, hend]

/-- Before the last line of what is taken a block cannot end. -/
theorem not_closesAt_of_lt (hne : o ≠ c) (hlast : last < lines.length)
    (htaken : (takeBlock ⟨some o, some c⟩ (lines.drop start)).1 = linesBetween lines start last)
    {e : Nat} (he : e < last) : ¬ ClosesAt o c lines start e := by
  intro hcloses
  have hstart := hcloses.start_le
  have hlength : e + 1 - start < (takeBlock ⟨some o, some c⟩ (lines.drop start)).1.length := by
    rw [htaken, length_linesBetween hlast]
    omega
  have hopen := isClosed_behindAll_take_takeBlockFrom (by omega) hlength
  rw [← linesBetween, (closesAt_iff hne hstart hcloses.lt_length).mp hcloses] at hopen
  cases hopen

/-- What is taken ends where a block can end, or with the last line of all. -/
theorem eq_of_not_closesAt (hne : o ≠ c) (hstart : start ≤ last) (hlast : last < lines.length)
    (htaken : (takeBlock ⟨some o, some c⟩ (lines.drop start)).1 = linesBetween lines start last)
    (hopen : ¬ ClosesAt o c lines start last) : last = lines.length - 1 := by
  have hbehind : (Balance.behindAll ⟨some o, some c⟩ {}
      (takeBlock ⟨some o, some c⟩ (lines.drop start)).1).isClosed = false := by
    rw [htaken, Bool.eq_false_iff]
    exact fun hclosed => hopen ((closesAt_iff hne hstart hlast).mpr hclosed)
  have hall := takeBlockFrom_append ⟨some o, some c⟩ {} (lines.drop start)
  rw [takeBlockFrom_snd_eq_nil hbehind, List.append_nil, ← takeBlock, htaken] at hall
  have hlength := congrArg List.length hall
  rw [length_linesBetween hlast, List.length_drop] at hlength
  omega

/-! ### The end of a captured block -/

/-- **The end of a captured block.** From a position among the lines, a block is captured up to the
first line at which it can end, or up to the last line when there is none, and its text is these
lines. Closing delimiters alone never end it. -/
theorem captureAt?_ends_first (lines : List Line) {start : Nat} (hstart : start < lines.length)
    {o c : Char} (hne : o ≠ c) :
    ∃ last : Nat,
      captureAt? ⟨some o, some c⟩ lines start =
        some ⟨unlines (linesBetween lines start last), last⟩ ∧
      (IsLeast {e | ClosesAt o c lines start e} last ∨
        (∀ e, ¬ ClosesAt o c lines start e) ∧ last = lines.length - 1) ∧
      ((∀ line ∈ lines.drop start, o ∉ line) → last = lines.length - 1) := by
  obtain ⟨last, hle, hlt, htaken⟩ := exists_takeBlock_eq ⟨some o, some c⟩ hstart
  have hinside : ∀ e, e < last → ¬ ClosesAt o c lines start e :=
    fun e he => not_closesAt_of_lt hne hlt htaken he
  refine ⟨last, captureAt?_eq hle hlt htaken, ?_, fun hnone => ?_⟩
  · by_cases hcloses : ClosesAt o c lines start last
    · exact .inl ⟨hcloses, fun e he => Nat.le_of_not_lt fun hlt => hinside e hlt he⟩
    · have hfinal := eq_of_not_closesAt hne hle hlt htaken hcloses
      refine .inr ⟨fun e he => ?_, hfinal⟩
      -- no line comes behind the last one
      have hlength := he.lt_length
      rcases Nat.lt_or_ge e last with hbefore | hbehind
      · exact hinside e hbefore he
      · obtain rfl : e = last := by omega
        exact hcloses he
  · refine eq_of_not_closesAt hne hle hlt htaken fun hcloses => ?_
    obtain ⟨line, hline, ho⟩ := List.mem_flatten.mp hcloses.opens
    exact hnone line (List.mem_of_mem_take hline) ho

/-- The balance is below zero when something is opened for the first time, and the block ends with
the line that makes up for it. -/
theorem captureAt?_ends_first_from_below_zero :
    let lines := ["(".toList, "a)".toList, "b) (".toList, "(".toList, "c".toList]
    captureAt? ⟨some '(', some ')'⟩ lines 1 = some ⟨"a)\nb) (\n(".toList, 3⟩ ∧
      IsLeast {e | ClosesAt '(' ')' lines 1 e} 3 := by
  intro lines
  have hcapture : captureAt? ⟨some '(', some ')'⟩ lines 1 =
      some ⟨"a)\nb) (\n(".toList, 3⟩ := by decide
  refine ⟨hcapture, ?_⟩
  obtain ⟨last, heq, hend, -⟩ :=
    captureAt?_ends_first lines (show 1 < lines.length by decide) (show '(' ≠ ')' by decide)
  have hsame := Option.some.inj (hcapture.symm.trans heq)
  have hlast : (3 : Int) = last := congrArg Capture.endLine hsame
  obtain rfl : last = 3 := by omega
  exact hend.resolve_right fun hnone => absurd hnone.2 (by decide)

end GoIndex.Source
