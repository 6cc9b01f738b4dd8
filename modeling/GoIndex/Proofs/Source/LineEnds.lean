import GoIndex.Proofs.Text.Lines
import GoIndex.Source.Imports
import GoIndex.Source.Scan

/-!
# Line ends

Lines may be ended by a line feed alone, or by a carriage return and a line feed. `withReturns`
turns the first way into the second, and whatever the text, the cut into lines takes exactly the
carriage returns away again that were put in (`lines_withReturns`): the lines are then the pieces
between the line feeds of the text as it was. A text that has no carriage return of its own is cut
into the same pieces (`lines_of_return_not_mem`), and neither a scan nor the imports see more of a
text than its lines.
-/

namespace GoIndex.Text

/-- A text with a carriage return put before every line feed. -/
def withReturns (text : List Char) : List Char :=
  text.flatMap fun c => if c = '\n' then ['\r', '\n'] else [c]

theorem withReturns_append (a b : List Char) :
    withReturns (a ++ b) = withReturns a ++ withReturns b :=
  List.flatMap_append

theorem withReturns_newline_cons (text : List Char) :
    withReturns ('\n' :: text) = '\r' :: '\n' :: withReturns text :=
  rfl

/-- A line stays as it is. -/
theorem withReturns_of_newline_not_mem {line : Line} (h : '\n' ∉ line) :
    withReturns line = line := by
  have hkeep : ∀ c ∈ line, (if c = '\n' then ['\r', '\n'] else [c]) = [c] := by
    intro c hc
    rw [if_neg]
    rintro rfl
    exact h hc
  rw [withReturns, List.flatMap_congr hkeep, List.flatMap_singleton']

theorem chopReturn_concat (line : Line) : chopReturn (line ++ ['\r']) = line := by
  rw [chopReturn, if_pos (by simp), List.dropLast_concat]

theorem unlines_cons {ls : List Line} (h : ls ≠ []) (line : Line) :
    unlines (line :: ls) = line ++ '\n' :: unlines ls := by
  obtain ⟨next, rest, rfl⟩ := List.exists_cons_of_ne_nil h
  rw [unlines, List.intercalate_cons_cons, List.append_assoc, unlines, List.singleton_append]

/-- All lines but the last get a carriage return at their end. -/
theorem withReturns_unlines {front : List Line} {last : Line}
    (h : ∀ line ∈ front ++ [last], '\n' ∉ line) :
    withReturns (unlines (front ++ [last])) = unlines (front.map (· ++ ['\r']) ++ [last]) := by
  induction front with
  | nil =>
    have hlast : '\n' ∉ last := h last (by simp)
    have hwhole : unlines [last] = last := by simp [unlines]
    rw [List.nil_append, List.map_nil, List.nil_append, hwhole,
      withReturns_of_newline_not_mem hlast]
  | cons line front ih =>
    have hline : '\n' ∉ line := h line (by simp)
    have hrest : ∀ l ∈ front ++ [last], '\n' ∉ l := fun l hl => h l (List.mem_cons_of_mem _ hl)
    rw [List.cons_append, unlines_cons (by simp), withReturns_append, withReturns_newline_cons,
      withReturns_of_newline_not_mem hline, ih hrest, List.map_cons, List.cons_append,
      unlines_cons (by simp), List.append_assoc, List.singleton_append]

/-- **What is put in is taken away**: with carriage returns put in, a text is cut at its line feeds
and nothing else is lost. -/
theorem lines_withReturns (text : List Char) : lines (withReturns text) = text.splitOn '\n' := by
  obtain ⟨front, last, hpieces⟩ : ∃ front last, text.splitOn '\n' = front ++ [last] :=
    (List.eq_nil_or_concat' _).resolve_left (List.splitOn_ne_nil '\n' text)
  have htext : unlines (front ++ [last]) = text := by
    rw [← hpieces]
    exact List.intercalate_splitOn '\n'
  have hline : ∀ line ∈ front ++ [last], '\n' ∉ line := by
    intro line hmem
    exact not_mem_of_mem_splitOn (hpieces ▸ hmem)
  have hended : ∀ line ∈ front.map (· ++ ['\r']) ++ [last], '\n' ∉ line := by
    intro line hmem
    rcases List.mem_append.mp hmem with hfront | hlast
    · obtain ⟨piece, hpiece, rfl⟩ := List.mem_map.mp hfront
      have hnone := hline piece (List.mem_append_left _ hpiece)
      simpa using hnone
    · exact hline line (List.mem_append_right _ hlast)
  have hchop : (chopReturn ∘ (· ++ ['\r'])) = id := funext chopReturn_concat
  calc lines (withReturns text)
      = lines (unlines (front.map (· ++ ['\r']) ++ [last])) := by
        rw [← htext, withReturns_unlines hline]
    _ = (front.map (· ++ ['\r'])).map chopReturn ++ [last] := by
        rw [lines_unlines (by simp) hended, chopReturns_concat]
    _ = front ++ [last] := by rw [List.map_map, hchop, List.map_id]
    _ = text.splitOn '\n' := hpieces.symm

/-- Without carriage returns a text is cut at its line feeds. -/
theorem lines_of_return_not_mem {text : List Char} (h : '\r' ∉ text) :
    lines text = text.splitOn '\n' := by
  refine chopReturns_of_forall fun line hline hreturn => ?_
  exact h ((infix_of_mem_splitOn hline).subset hreturn)

end GoIndex.Text

namespace GoIndex.Source

open Text

/-- **Line ends do not matter.** A text without carriage returns, and the same text with one put
before every line feed, give the same declarations, from wherever they come and however many lines
a header may have: in every field, the verbatim block, the documentation and the line number among
them. They also give the same imports. -/
theorem scan_withReturns {text : List Char} (h : '\r' ∉ text) :
    (∀ origin, scan origin (withReturns text) = scan origin text) ∧
      imports (withReturns text) = imports text := by
  have hlines : lines (withReturns text) = lines text := by
    rw [lines_withReturns, lines_of_return_not_mem h]
  refine ⟨fun origin => ?_, ?_⟩
  · rw [scan, hlines, scan]
  · rw [imports, hlines, imports]

/-- A text with an import in parentheses and a documented type. -/
private def documented : List Char :=
  "import (\n\"a\"\n)\n// T.\ntype T struct \x7b\n\x7d".toList

/-- The block of the type is the same to the letter, its documentation is found, and the closing
parenthesis still ends the imports. -/
theorem scan_withReturns_of_documented :
    '\r' ∉ documented ∧ '\r' ∈ withReturns documented ∧
    (scan ⟨"a.go", "root", 12⟩ (withReturns documented)).map
        (fun d => (d.lineNumber, d.documentation, d.fullBlock)) =
      [(5, some "T.", some "type T struct \x7b\n\x7d")] ∧
    imports (withReturns documented) = ["a"] := by
  have hreturn : '\r' ∉ documented := by decide
  obtain ⟨hscan, himports⟩ := scan_withReturns hreturn
  refine ⟨hreturn, by decide, ?_, ?_⟩
  · rw [hscan]
    decide +kernel
  · rw [himports]
    decide +kernel

end GoIndex.Source
