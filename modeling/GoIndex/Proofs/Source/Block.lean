import GoIndex.Source.Scan

/-!
# Blocks that close

A block ends where its balance closes, or else where the lines end. `Balance.behindAll` is the
balance behind several lines, and a block has come to its own end when the balance behind all of its
lines is closed. Such a block is **local**: lines that are put behind the text change neither the
block nor what is taken of the lines so far (`takeBlock_append_of_isClosed`).

`Heading.delimiters?` names the delimiters that decide how far a heading reaches. A heading without
them takes its own line only.
-/

namespace GoIndex.Source

open Text

/-! ### Blocks -/

/-- The balance behind several lines. -/
def Balance.behindAll (d : Delimiters) (b : Balance) (lines : List Line) : Balance :=
  lines.foldl (Balance.behind d) b

@[simp]
theorem Balance.behindAll_nil (d : Delimiters) (b : Balance) : b.behindAll d [] = b := rfl

@[simp]
theorem Balance.behindAll_cons (d : Delimiters) (b : Balance) (line : Line) (lines : List Line) :
    b.behindAll d (line :: lines) = (b.behind d line).behindAll d lines := rfl

/-- The balance behind a line counts what is opened and what is closed on it. -/
theorem Balance.behind_eq {o c : Char} (hne : o ≠ c) (b : Balance) (line : Line) :
    b.behind ⟨some o, some c⟩ line =
      ⟨b.depth + line.count o - line.count c, b.opened || line.contains o⟩ := by
  induction line generalizing b with
  | nil => simp [Balance.behind]
  | cons x line ih =>
    rw [Balance.behind, List.foldl_cons, ← Balance.behind, ih, Balance.push]
    by_cases ho : x = o
    · subst ho
      grind
    · by_cases hc : x = c
      · subst hc
        grind
      · grind

theorem Balance.behindAll_eq_behind_flatten (d : Delimiters) (b : Balance) (lines : List Line) :
    b.behindAll d lines = b.behind d lines.flatten := by
  rw [Balance.behindAll, Balance.behind, List.foldl_flatten]
  rfl

/-- A balance is closed behind lines on which something is opened and as much is closed. -/
theorem Balance.isClosed_behindAll_iff {o c : Char} (hne : o ≠ c) {lines : List Line} :
    (Balance.behindAll ⟨some o, some c⟩ {} lines).isClosed ↔
      o ∈ lines.flatten ∧ lines.flatten.count o = lines.flatten.count c := by
  rw [Balance.behindAll_eq_behind_flatten, Balance.behind_eq hne, Balance.isClosed,
    Bool.and_eq_true, Bool.false_or, List.contains_iff_mem, beq_iff_eq]
  refine and_congr_right fun _ => ?_
  dsimp only
  omega

/-- **Open inside**: behind none of its lines but the last has a block closed. -/
theorem isClosed_behindAll_take_takeBlockFrom {d : Delimiters} {b : Balance} {lines : List Line}
    {k : Nat} (hpos : 0 < k) (hk : k < (takeBlockFrom d b lines).1.length) :
    (b.behindAll d (lines.take k)).isClosed = false := by
  induction lines generalizing b k with
  | nil => simp [takeBlockFrom] at hk
  | cons line rest ih =>
    obtain ⟨k, rfl⟩ : ∃ j, k = j + 1 := ⟨k - 1, by omega⟩
    rw [takeBlockFrom] at hk
    by_cases hline : (b.behind d line).isClosed
    · simp [hline] at hk
    · simp only [hline, Bool.false_eq_true, if_false, List.length_cons] at hk
      rw [List.take_succ_cons, Balance.behindAll_cons]
      cases k with
      | zero => simpa using hline
      | succ k => exact ih (Nat.succ_pos k) (by omega)

/-- A block that does not close takes all lines. -/
theorem takeBlockFrom_snd_eq_nil {d : Delimiters} {b : Balance} {lines : List Line}
    (hopen : (b.behindAll d (takeBlockFrom d b lines).1).isClosed = false) :
    (takeBlockFrom d b lines).2 = [] := by
  induction lines generalizing b with
  | nil => rfl
  | cons line rest ih =>
    rw [takeBlockFrom] at hopen ⊢
    by_cases hline : (b.behind d line).isClosed
    · simp [hline] at hopen
    · simp only [hline, Bool.false_eq_true, if_false, Balance.behindAll_cons] at hopen ⊢
      exact ih hopen

/-- **Locality**: a block that closes is the same block when more lines follow. The balance at the
start must still be open, or no line at all would be a closed block. -/
private theorem takeBlockFrom_append_of_isClosed {d : Delimiters} {b : Balance}
    {lines : List Line} (hb : b.isClosed = false)
    (hclosed : (b.behindAll d (takeBlockFrom d b lines).1).isClosed) (more : List Line) :
    takeBlockFrom d b (lines ++ more) =
      ((takeBlockFrom d b lines).1, (takeBlockFrom d b lines).2 ++ more) := by
  induction lines generalizing b with
  | nil => simp [takeBlockFrom, hb] at hclosed
  | cons line rest ih =>
    rw [List.cons_append, takeBlockFrom, takeBlockFrom]
    rw [takeBlockFrom] at hclosed
    by_cases hline : (b.behind d line).isClosed
    · simp [hline]
    · simp only [hline, Bool.false_eq_true, if_false, Balance.behindAll_cons] at hclosed ⊢
      rw [ih (by simpa using hline) hclosed]

theorem takeBlock_append_of_isClosed {d : Delimiters} {lines : List Line}
    (hclosed : (Balance.behindAll d {} (takeBlock d lines).1).isClosed) (more : List Line) :
    takeBlock d (lines ++ more) = ((takeBlock d lines).1, (takeBlock d lines).2 ++ more) :=
  takeBlockFrom_append_of_isClosed rfl hclosed more

/-- Lines that close what they open leave a block open, and the delimiter behind them closes it. -/
theorem takeBlockFrom_enclosed {o c : Char} (hne : o ≠ c) {lines : List Line}
    (hcount : ∀ l ∈ lines, l.count o = l.count c) :
    takeBlockFrom ⟨some o, some c⟩ ⟨1, true⟩ (lines ++ [[c]]) = (lines ++ [[c]], []) := by
  induction lines with
  | nil =>
    have hbehind : Balance.behind ⟨some o, some c⟩ ⟨1, true⟩ [c] = ⟨0, true⟩ := by
      simp [Balance.behind_eq hne, Ne.symm hne]
    rw [List.nil_append, takeBlockFrom, hbehind]
    rfl
  | cons l lines ih =>
    obtain ⟨hl, hlines⟩ := List.forall_mem_cons.mp hcount
    have hbehind : Balance.behind ⟨some o, some c⟩ ⟨1, true⟩ l = ⟨1, true⟩ := by
      simp [Balance.behind_eq hne, hl]
    rw [List.cons_append, takeBlockFrom, hbehind, ih hlines]
    rfl

/-- **A block that is closed at its end** is all of its lines: the first opens it once, the lines
inside close what they open, and the last is the closing delimiter. -/
theorem takeBlock_enclosed {o c : Char} (hne : o ≠ c) {first : Line} {lines : List Line}
    (hfirst : first.count o = first.count c + 1) (hcount : ∀ l ∈ lines, l.count o = l.count c) :
    takeBlock ⟨some o, some c⟩ (first :: (lines ++ [[c]])) = (first :: (lines ++ [[c]]), []) := by
  have hmem : o ∈ first := List.count_pos_iff.mp (by omega)
  have hdepth : (first.count o : Int) - first.count c = 1 := by omega
  have hbehind : Balance.behind ⟨some o, some c⟩ {} first = ⟨1, true⟩ := by
    simp [Balance.behind_eq hne, hmem, hdepth]
  rw [takeBlock, takeBlockFrom, hbehind, takeBlockFrom_enclosed hne hcount]
  rfl

/-! ### What a heading takes -/

/-- The delimiters of the block that a heading opens, if it opens one. -/
def Heading.delimiters? : Heading → Option Delimiters
  | .interface _ => some .braces
  | .struct _ => some .braces
  | .group _ => some .parens
  | _ => none

/-- A heading takes its block or its line. -/
theorem Heading.extent_eq (h : Heading) (lines : List Line) :
    h.extent lines = h.delimiters?.elim (lines.take 1, lines.drop 1) (takeBlock · lines) := by
  cases h <;> rfl

/-- No line is lost between what a heading takes and what it leaves. -/
theorem Heading.extent_append (h : Heading) (lines : List Line) :
    (h.extent lines).1 ++ (h.extent lines).2 = lines := by
  rw [h.extent_eq]
  cases h.delimiters? with
  | none => exact List.take_append_drop 1 lines
  | some d => exact takeBlockFrom_append d {} lines

/-- What a heading takes starts with the line that it stands on. -/
theorem Heading.extent_fst_eq_cons (h : Heading) (line : Line) (rest : List Line) :
    ∃ more, (h.extent (line :: rest)).1 = line :: more := by
  rw [h.extent_eq]
  cases h.delimiters? with
  | none => exact ⟨[], rfl⟩
  | some d =>
    rw [Option.elim_some, takeBlock, takeBlockFrom]
    split <;> exact ⟨_, rfl⟩

/-- A heading takes the only line there is. -/
theorem Heading.extent_singleton (h : Heading) (line : Line) : h.extent [line] = ([line], []) := by
  have hleft : (h.extent [line]).2 = [] :=
    List.eq_nil_of_length_eq_zero (Nat.lt_one_iff.mp (h.length_extent_lt line []))
  have hall := h.extent_append [line]
  rw [hleft, List.append_nil] at hall
  exact Prod.ext hall hleft

/-- What a heading takes is unaffected by lines further on, once its block has closed. -/
theorem Heading.extent_cons_append {h : Heading} {line : Line} {rest : List Line}
    (hclosed : ∀ d ∈ h.delimiters?,
      (Balance.behindAll d {} (h.extent (line :: rest)).1).isClosed) (more : List Line) :
    h.extent (line :: (rest ++ more)) =
      ((h.extent (line :: rest)).1, (h.extent (line :: rest)).2 ++ more) := by
  rw [h.extent_eq] at hclosed
  rw [h.extent_eq, h.extent_eq, ← List.cons_append]
  cases hd : h.delimiters? with
  | none => simp
  | some d =>
    rw [hd] at hclosed
    exact takeBlock_append_of_isClosed (hclosed d rfl) more

/-- A heading that takes the whole text gives all that the text declares. -/
theorem scan_eq_declarations (origin : Origin) {text : List Char} {line : Line} {rest : List Line}
    {h : Heading} (hlines : lines text = line :: rest)
    (hheading : Heading.ofLine? (trim line) = some h)
    (hextent : h.extent (line :: rest) = (line :: rest, [])) :
    scan origin text = h.declarations origin [] line rest := by
  rw [scan, hlines, scanLines, hheading]
  simp only [hextent, scanLines, List.append_nil]

end GoIndex.Source
