/-!
# Ascending lists of strings

`ascending` puts strings into order, by code point, and keeps one of each. The result is strictly
ascending and has the members that it was given.
-/

namespace GoIndex.Text

/-- The strings in ascending order. -/
def sorted (texts : List String) : List String :=
  texts.mergeSort (fun a b => decide (a ≤ b))

/-- The distinct strings in ascending order. -/
def ascending (texts : List String) : List String :=
  (sorted texts).eraseDups

theorem pairwise_sorted (texts : List String) : (sorted texts).Pairwise (· ≤ ·) := by
  have h := @List.pairwise_mergeSort String (fun a b => decide (a ≤ b))
    (fun a b c => by simpa using String.le_trans) (fun a b => by simpa using String.le_total a b)
    texts
  exact h.imp (by simp)

/-- Without repetitions, texts in ascending order are in strictly ascending order. -/
theorem pairwise_lt_eraseDups (texts : List String) (h : texts.Pairwise (· ≤ ·)) :
    texts.eraseDups.Pairwise (· < ·) := by
  match texts, h with
  | [], _ => exact .nil
  | first :: rest, h =>
    obtain ⟨hfirst, hrest⟩ := List.pairwise_cons.mp h
    rw [List.eraseDups_cons, List.pairwise_cons]
    refine ⟨fun other hother => ?_, pairwise_lt_eraseDups _ (hrest.filter _)⟩
    obtain ⟨hmem, hne⟩ := List.mem_filter.mp (List.mem_eraseDups.mp hother)
    have hnot : other ≠ first := by simpa using hne
    exact String.not_le.mp fun hle => hnot (String.le_antisymm hle (hfirst other hmem))
termination_by texts.length
decreasing_by exact Nat.lt_succ_of_le (List.length_filter_le _ _)

/-- The distinct strings ascend strictly. -/
theorem pairwise_ascending (texts : List String) : (ascending texts).Pairwise (· < ·) :=
  pairwise_lt_eraseDups _ (pairwise_sorted texts)

@[simp]
theorem mem_ascending {text : String} {texts : List String} :
    text ∈ ascending texts ↔ text ∈ texts := by
  simp [ascending, sorted]

end GoIndex.Text
