import GoIndex.Proofs.Text.Trim
import GoIndex.Text.Lines

/-!
# Cutting a text into lines

No line holds a line feed (`newline_not_mem_of_mem_lines`), so lines that have been put together
with `unlines` can be cut apart again. Where a line feed joins two texts, the lines of the whole are
the lines of the two one behind the other (`lines_append_newline`). The only thing that can go wrong
at the seam is a carriage return in front of it, which the cut would take along.
-/

namespace GoIndex.Text

/-! ### Pieces between separators -/

/-- No piece holds the character that the text was cut at. -/
theorem not_mem_of_mem_splitOn {x : Char} {text piece : List Char} (h : piece ∈ text.splitOn x) :
    x ∉ piece := by
  induction text generalizing piece with
  | nil =>
    obtain rfl : piece = [] := by simpa using h
    simp
  | cons c text ih =>
    rw [List.splitOn_cons_eq_if_modifyHead] at h
    split at h
    · rcases List.mem_cons.mp h with rfl | h
      · simp
      · exact ih h
    · rename_i hc
      cases hpieces : text.splitOn x with
      | nil => exact absurd hpieces (List.splitOn_ne_nil x text)
      | cons first pieces =>
        rw [hpieces] at h ih
        rcases List.mem_cons.mp h with rfl | h
        · have hx : x ∉ first := ih (by simp)
          have hcx : x ≠ c := fun heq => hc (by simp [heq])
          simp [hx, hcx]
        · exact ih (List.mem_cons_of_mem _ h)

/-- The last piece is the end of the text. -/
theorem suffix_of_getLast?_splitOn {x : Char} {text piece : List Char}
    (h : (text.splitOn x).getLast? = some piece) : piece <:+ text := by
  induction text generalizing piece with
  | nil =>
    obtain rfl : piece = [] := by simpa using h.symm
    exact List.suffix_refl []
  | cons c text ih =>
    rw [List.splitOn_cons_eq_if_modifyHead] at h
    cases hpieces : text.splitOn x with
    | nil => exact absurd hpieces (List.splitOn_ne_nil x text)
    | cons first pieces =>
      rw [hpieces] at h ih
      split at h
      · rw [List.getLast?_cons_cons] at h
        exact (ih h).trans (List.suffix_cons c text)
      · cases pieces with
        | nil =>
          -- the only piece is the whole text, one character longer than before
          obtain rfl : piece = c :: first := by simpa using h.symm
          have hjoin : [x].intercalate (text.splitOn x) = text := List.intercalate_splitOn x
          have hwhole : first = text := by simpa [hpieces] using hjoin
          exact hwhole ▸ List.suffix_refl (c :: first)
        | cons second pieces =>
          have hlast : (first :: second :: pieces).getLast? = some piece := by
            simpa [List.getLast?_cons_cons] using h
          exact (ih hlast).trans (List.suffix_cons c text)

/-- A piece is a stretch of the text. -/
theorem infix_of_mem_splitOn {x : Char} {text piece : List Char} (h : piece ∈ text.splitOn x) :
    piece <:+: text := by
  have hjoin : [x].intercalate (text.splitOn x) = text := List.intercalate_splitOn x
  have hmem : ∀ {pieces : List (List Char)}, piece ∈ pieces → piece ∈ pieces.intersperse [x] := by
    intro pieces hpiece
    obtain ⟨i, hi⟩ := List.mem_iff_getElem?.mp hpiece
    exact List.mem_iff_getElem?.mpr ⟨2 * i, by rw [List.getElem?_intersperse_two_mul, hi]⟩
  rw [← hjoin]
  exact List.infix_of_mem_flatten (hmem h)

/-- What stands in a text put together with separators is a separator or stands in a piece. -/
theorem mem_intercalate_singleton {x c : Char} {pieces : List (List Char)}
    (h : c ∈ [x].intercalate pieces) : c = x ∨ c ∈ pieces.flatten := by
  induction pieces with
  | nil => simp at h
  | cons piece pieces ih =>
    cases pieces with
    | nil => simp_all
    | cons next pieces =>
      rw [List.intercalate_cons_cons, List.mem_append, List.mem_append, List.mem_singleton] at h
      rw [List.flatten_cons, List.mem_append]
      obtain (h | h) | h := h
      · exact .inr (.inl h)
      · exact .inl h
      · exact (ih h).imp_right .inr

/-- A text stands somewhere in another when it is a stretch of it. -/
theorem occursIn_iff {needle text : List Char} : occursIn needle text ↔ needle <:+: text := by
  induction text with
  | nil => simp [occursIn]
  | cons c text ih => rw [occursIn, Bool.or_eq_true, List.isPrefixOf_iff_prefix, ih,
      List.infix_cons_iff]

/-! ### Lines -/

/-- A carriage return is all that a line can lose. -/
theorem chopReturn_eq_or (line : Line) :
    chopReturn line = line ∨ chopReturn line ++ ['\r'] = line := by
  rw [chopReturn]
  split
  · rename_i hlast
    obtain ⟨front, rfl⟩ := List.getLast?_eq_some_iff.mp hlast
    exact .inr (by rw [List.dropLast_concat])
  · exact .inl rfl

theorem trim_chopReturn (line : Line) : trim (chopReturn line) = trim line := by
  rcases chopReturn_eq_or line with heq | heq
  · rw [heq]
  · rw [← congrArg trim heq, trim_append_blank (by decide)]

/-- Trimming takes away more than chopping. -/
theorem map_trim_chopReturns (ls : List Line) : (chopReturns ls).map trim = ls.map trim := by
  fun_induction chopReturns ls with
  | case1 => rfl
  | case2 last => rfl
  | case3 line next rest ih =>
    rw [List.map_cons, ih, trim_chopReturn, List.map_cons (l := next :: rest)]

private theorem mem_of_mem_chopReturn {c : Char} {line : Line} (h : c ∈ chopReturn line) :
    c ∈ line := by
  rw [chopReturn] at h
  split at h
  · exact List.dropLast_subset line h
  · exact h

private theorem exists_of_mem_chopReturns {ls : List Line} {line : Line}
    (h : line ∈ chopReturns ls) : ∃ l ∈ ls, ∀ c ∈ line, c ∈ l := by
  fun_induction chopReturns ls with
  | case1 => simp at h
  | case2 last => exact ⟨line, h, fun c hc => hc⟩
  | case3 first next rest ih =>
    rcases List.mem_cons.mp h with rfl | h
    · exact ⟨first, by simp, fun c hc => mem_of_mem_chopReturn hc⟩
    · obtain ⟨l, hl, hsub⟩ := ih h
      exact ⟨l, List.mem_cons_of_mem _ hl, hsub⟩

/-- A line holds no line feed. -/
theorem newline_not_mem_of_mem_lines {text : List Char} {line : Line} (h : line ∈ lines text) :
    '\n' ∉ line := by
  obtain ⟨piece, hpiece, hsub⟩ := exists_of_mem_chopReturns h
  exact fun hmem => not_mem_of_mem_splitOn hpiece (hsub _ hmem)

/-- Chopping goes piece by piece; the piece that ceases to be the last one must be chopped
already. -/
private theorem chopReturns_append {xs ys : List Line}
    (hlast : ∀ line ∈ xs.getLast?, chopReturn line = line) (hys : ys ≠ []) :
    chopReturns (xs ++ ys) = chopReturns xs ++ chopReturns ys := by
  fun_induction chopReturns xs with
  | case1 => rfl
  | case2 last =>
    cases ys with
    | nil => exact absurd rfl hys
    | cons line ys =>
      have hline : chopReturn last = last := hlast last (by simp)
      rw [List.singleton_append, chopReturns, hline, List.singleton_append]
  | case3 line next rest ih =>
    rw [List.getLast?_cons_cons] at hlast
    rw [List.cons_append, List.cons_append, chopReturns, ← List.cons_append, ih hlast,
      List.cons_append]

theorem chopReturns_concat (ls : List Line) (last : Line) :
    chopReturns (ls ++ [last]) = ls.map chopReturn ++ [last] := by
  induction ls with
  | nil => rfl
  | cons first rest ih =>
    rw [List.map_cons, List.cons_append, List.cons_append, ← ih]
    cases rest with
    | nil => rfl
    | cons next rest => rfl

/-- Lines that have been put together are cut apart again; a carriage return at the end of any of
them but the last is lost. -/
theorem lines_unlines {ls : List Line} (hls : ls ≠ []) (hline : ∀ line ∈ ls, '\n' ∉ line) :
    lines (unlines ls) = chopReturns ls := by
  rw [lines, unlines, List.splitOn_intercalate '\n' hline hls]

/-- A text without a line feed is one line. -/
theorem lines_of_newline_not_mem {line : Line} (hline : '\n' ∉ line) : lines line = [line] := by
  have hwhole : unlines [line] = line := by simp [unlines]
  rw [← hwhole, lines_unlines (List.cons_ne_nil line []) (by simpa using hline), hwhole]
  rfl

/-- The lines of a text with a first and a last line of its own; a carriage return at the end of a
line between them is lost. -/
theorem lines_unlines_enclosed {first last : Line} {ls : List Line} (hfirst : '\n' ∉ first)
    (hreturn : first.getLast? ≠ some '\r') (hline : ∀ line ∈ ls, '\n' ∉ line)
    (hlast : '\n' ∉ last) :
    lines (unlines (first :: (ls ++ [last]))) = first :: (ls.map chopReturn ++ [last]) := by
  have hkeep : chopReturn first = first := by rw [chopReturn, if_neg hreturn]
  rw [lines_unlines (List.cons_ne_nil _ _), ← List.cons_append, chopReturns_concat, List.map_cons,
    List.cons_append, hkeep]
  intro line hmem
  rcases List.mem_cons.mp hmem with rfl | hmem
  · exact hfirst
  · rcases List.mem_append.mp hmem with hmem | hmem
    · exact hline line hmem
    · rwa [List.mem_singleton.mp hmem]

/-- **Lines at a seam**: a line feed between two texts separates their lines, unless a carriage
return stands right before it. -/
theorem lines_append_newline {a : List Char} (b : List Char) (ha : a.getLast? ≠ some '\r') :
    lines (a ++ '\n' :: b) = lines a ++ lines b := by
  rw [lines, List.splitOn_append_cons_self, lines, lines]
  refine chopReturns_append (fun line hline => ?_) (List.splitOn_ne_nil '\n' b)
  rw [chopReturn, if_neg]
  intro hreturn
  obtain ⟨front, hfront⟩ := suffix_of_getLast?_splitOn (Option.mem_def.mp hline)
  exact ha (by rw [← hfront, List.getLast?_append, hreturn, Option.some_or])

end GoIndex.Text
