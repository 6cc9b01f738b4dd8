/-!
# Lines

A text is a list of characters and a line a list of characters without a line end. `lines` cuts a
text at every line feed and takes one carriage return before a line feed with it; a carriage return
anywhere else stays in its line. `unlines` puts line feeds between lines.
-/

namespace GoIndex.Text

/-- A line of source text. -/
abbrev Line := List Char

/-- A line without a carriage return at its end. -/
def chopReturn (line : Line) : Line :=
  if line.getLast? = some '\r' then line.dropLast else line

/-- Chops all lines but the last, which no line feed ends. -/
def chopReturns : List Line → List Line
  | [] => []
  | [last] => [last]
  | line :: next :: rest => chopReturn line :: chopReturns (next :: rest)

/-- The lines of a text. -/
def lines (text : List Char) : List Line :=
  chopReturns (text.splitOn '\n')

/-- Lines put together with line feeds between them. -/
def unlines (lines : List Line) : List Char :=
  ['\n'].intercalate lines

/-- Texts put together with a separator between them. -/
def joinWith (separator : String) (parts : List String) : String :=
  String.ofList (separator.toList.intercalate (parts.map String.toList))

/-- Whether `needle` stands somewhere in the text. -/
def occursIn (needle : List Char) : List Char → Bool
  | [] => needle.isEmpty
  | c :: rest => needle.isPrefixOf (c :: rest) || occursIn needle rest

/-- Without carriage returns the lines are the pieces between line feeds. -/
theorem chopReturns_of_forall {ls : List Line} (h : ∀ l ∈ ls, '\r' ∉ l) : chopReturns ls = ls := by
  fun_induction chopReturns ls with
  | case1 => rfl
  | case2 => rfl
  | case3 line next rest ih =>
    have hline : chopReturn line = line := by
      rw [chopReturn, if_neg]
      intro hlast
      exact h line (by simp) (List.mem_of_getLast? hlast)
    rw [hline, ih fun l hl => h l (List.mem_cons_of_mem _ hl)]

@[simp]
theorem length_chopReturns (ls : List Line) : (chopReturns ls).length = ls.length := by
  fun_induction chopReturns ls <;> simp_all

end GoIndex.Text
