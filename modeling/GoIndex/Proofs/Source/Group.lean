import GoIndex.Proofs.Source.Heading
import GoIndex.Proofs.Source.Stops
import GoIndex.Proofs.Text.Lines
import GoIndex.Proofs.Text.Word

/-!
# Groups and single declarations

A line of a group and the same line behind its own word declare the same thing
(`scan_group_eq_singles`). Both ways come down to the entry that the code of the line is: a group
reads it and drops it unless it is exported (`scan_groupText`), a single declaration is only read
when it is exported (`scan_singleText`). What keeps the group together is that its lines open as
many parentheses as they close, so that the block ends where it should (`takeBlock_group`).
-/

namespace GoIndex

open Text

/-- What a constant or a variable declares: its name, its kind and its value. -/
def Declaration.binding (d : Declaration) : String × Kind × Option String :=
  (d.name, d.kind, d.literalValue)

namespace Source

/-- The text of a group with these lines. -/
def groupText (kind : ValueKind) (ls : List Line) : List Char :=
  unlines ((kind.keyword.spelling ++ [' ', '(']) :: (ls ++ [[')']]))

/-- The text of a single declaration with the code of this line. -/
def singleText (kind : ValueKind) (line : Line) : List Char :=
  kind.keyword.spelling ++ ' ' :: codeOf line

/-- The entry that a line of a group declares, when it is exported. -/
def exportedOf? (line : Line) : Option Entry :=
  (entryOf? line).filter (isExported ·.name)

/-- What an entry declares in a group of some kind. -/
def Entry.binding (kind : ValueKind) (entry : Entry) : String × Kind × Option String :=
  (String.ofList entry.name, kind.kind, entry.literal.map String.ofList)

variable {kind : ValueKind} {line : Line}

/-! ### The code of a line -/

/-- A character that is no slash, put behind a line, is part of its comment or of its code. -/
theorem cutComment_append (line : Line) {c : Char} (hc : c ≠ '/') :
    cutComment (line ++ [c]) = cutComment line ∨
      cutComment (line ++ [c]) = cutComment line ++ [c] := by
  fun_induction cutComment line with
  | case1 rest => exact .inl rfl
  | case2 d rest hslash ih =>
    have hstep : cutComment (d :: (rest ++ [c])) = d :: cutComment (rest ++ [c]) := by
      refine cutComment.eq_2 d (rest ++ [c]) ?_
      rintro after rfl hafter
      cases rest with
      | nil => exact hc (List.cons.inj hafter).1
      | cons e rest => exact hslash rest rfl (by rw [(List.cons.inj hafter).1])
    rw [List.cons_append, hstep]
    rcases ih with ih | ih
    · exact .inl (by rw [ih])
    · exact .inr (by rw [ih, List.cons_append])
  | case3 => exact .inr (cutComment.eq_2 c [] fun _ hslash _ => hc hslash)

/-- A carriage return at the end of a line is not code. -/
theorem codeOf_chopReturn (line : Line) : codeOf (chopReturn line) = codeOf line := by
  rcases chopReturn_eq_or line with heq | heq
  · rw [heq]
  · rw [← congrArg codeOf heq, codeOf, codeOf]
    rcases cutComment_append (chopReturn line) (c := '\r') (by decide) with hcut | hcut
    · rw [hcut]
    · rw [hcut, trim_append_blank (by decide)]

theorem exportedOf?_chopReturn (line : Line) :
    exportedOf? (chopReturn line) = exportedOf? line := by
  rw [exportedOf?, exportedOf?, entryOf?, entryOf?, codeOf_chopReturn]

theorem newline_not_mem_codeOf (h : '\n' ∉ line) : '\n' ∉ codeOf line := by
  have hcut : ∀ l : Line, cutComment l <+: l := by
    intro l
    fun_induction cutComment l with
    | case1 rest => exact List.nil_prefix
    | case2 c rest hslash ih => exact (List.prefix_cons_inj c).mpr ih
    | case3 => exact List.prefix_refl []
  intro hmem
  exact h ((hcut line).subset ((isInfix_trim _).subset hmem))

/-- The exported entry of a line, read off its code. -/
theorem exportedOf?_of_codeOf {code : List Char} (hcode : codeOf line = code) :
    exportedOf? line =
      (nameFrom? isCapital code).map fun r => ⟨r.1, code, literalOf? r.2⟩ := by
  rw [exportedOf?, entryOf?, hcode]
  cases code with
  | nil => rfl
  | cons c rest =>
    rw [nameFrom?, nameFrom?]
    by_cases hcapital : isCapital c
    · simp [hcapital, isNameStart_of_isCapital hcapital, isExported]
    · by_cases hname : isNameStart c
      · simp [hcapital, hname, isExported]
      · simp [hcapital, hname]

/-! ### A group -/

theorem lines_groupText {ls : List Line} (hline : ∀ l ∈ ls, '\n' ∉ l) :
    lines (groupText kind ls) =
      (kind.keyword.spelling ++ [' ', '(']) :: (ls.map chopReturn ++ [[')']]) := by
  refine lines_unlines_enclosed ?_ ?_ hline (by decide)
  · cases kind <;> decide
  · rw [List.getLast?_append_cons]
    decide

theorem count_chopReturn (line : Line) {c : Char} (hc : c ≠ '\r') :
    (chopReturn line).count c = line.count c := by
  rcases chopReturn_eq_or line with heq | heq
  · rw [heq]
  · have hzero : ['\r'].count c = 0 := List.count_eq_zero.mpr (by simpa using hc)
    rw [← congrArg (List.count c) heq, List.count_append, hzero, Nat.add_zero]

/-- The block of a group is all of its text. -/
theorem takeBlock_group {ls : List Line} (hparens : ∀ l ∈ ls, l.count '(' = l.count ')') :
    takeBlock .parens ((kind.keyword.spelling ++ [' ', '(']) :: (ls ++ [[')']])) =
      ((kind.keyword.spelling ++ [' ', '(']) :: (ls ++ [[')']]), []) :=
  takeBlock_enclosed (by decide) (by cases kind <;> rfl) hparens

/-- The exported entries of a group, line by line. -/
theorem filter_groupEntries (block : List Line) :
    (groupEntries block).filter (isExported ·.1.name) =
      (block.tail.dropLast.zipIdx 1).flatMap fun r => (exportedOf? r.1).toList.map (·, r.2) := by
  rw [groupEntries, List.filter_filterMap, List.filterMap_eq_flatMap_toList]
  refine List.flatMap_congr fun r _ => ?_
  rw [exportedOf?]
  cases entryOf? r.1 with
  | none => rfl
  | some entry =>
    by_cases hexported : isExported entry.name
    · simp [Option.filter, hexported]
    · simp [Option.filter, hexported]

/-- What a group declares: the exported entries of its lines, each on its own line. -/
theorem scan_groupText (origin : Origin) {ls : List Line} (hline : ∀ l ∈ ls, '\n' ∉ l)
    (hparens : ∀ l ∈ ls, l.count '(' = l.count ')') :
    (scan origin (groupText kind ls)).map (fun d => (d.binding, d.lineNumber)) =
      (ls.zipIdx 2).flatMap fun r =>
        (exportedOf? r.1).toList.map fun entry => (entry.binding kind, (r.2 : Int)) := by
  have hheading : Heading.ofLine? (trim (kind.keyword.spelling ++ [' ', '('])) =
      some (.group kind) := by cases kind <;> rfl
  have hparens' : ∀ l ∈ ls.map chopReturn, l.count '(' = l.count ')' := by
    intro l hl
    obtain ⟨l₀, hl₀, rfl⟩ := List.mem_map.mp hl
    rw [count_chopReturn l₀ (by decide), count_chopReturn l₀ (by decide), hparens l₀ hl₀]
  have hextent : (Heading.group kind).extent
      ((kind.keyword.spelling ++ [' ', '(']) :: (ls.map chopReturn ++ [[')']])) =
        ((kind.keyword.spelling ++ [' ', '(']) :: (ls.map chopReturn ++ [[')']]), []) :=
    takeBlock_group hparens'
  rw [scan_eq_declarations origin (lines_groupText hline) hheading hextent]
  simp only [hextent, Heading.declarations, filter_groupEntries, List.tail_cons,
    List.dropLast_concat]
  -- the first line of a group is the second of the text
  have hshift : ls.zipIdx 2 = (ls.zipIdx 1).map fun r => (r.1, r.2 + 1) := List.zipIdx_succ
  rw [hshift, List.zipIdx_map, List.flatMap_map, List.flatMap_map, List.map_flatMap,
    List.map_flatMap]
  refine List.flatMap_congr fun r _ => ?_
  simp only [Prod.map_fst, Prod.map_snd, id_eq, exportedOf?_chopReturn, List.map_map]
  refine List.map_congr_left fun entry _ => ?_
  simp only [Function.comp_apply, Origin.grouped, Origin.declaration, Declaration.binding,
    Entry.binding, List.length_nil, Prod.mk.injEq, true_and]
  omega

/-! ### A single declaration -/

/-- The heading that a single declaration is, read off its code. -/
theorem ofLine?_singleText {c : Char} {rest : List Char} (hc : isBlank c = false)
    (hline : '\n' ∉ rest) :
    Heading.ofLine? (kind.keyword.spelling ++ ' ' :: c :: rest) =
      if c = '(' then some (.group kind)
      else (nameFrom? isCapital (c :: rest)).map fun r => .single kind r.1 r.2 := by
  have hblank : isBlank ' ' = true := by decide
  have htrim : trimLeft (c :: rest) = c :: rest := trimLeft_cons_of_not_blank hc rest
  have htrim' : trimLeft (' ' :: c :: rest) = c :: rest := by
    rw [trimLeft, trimLeftOf, List.dropWhile_cons, if_pos hblank]
    exact htrim
  have hlast : lastLine? (rest.dropWhile isWord) = some (rest.dropWhile isWord, []) :=
    lastLine?_of_not_mem fun hmem => hline ((List.dropWhile_suffix _).subset hmem)
  have hgroup : group? kind (kind.keyword.spelling ++ ' ' :: c :: rest) =
      if c = '(' then some (.group kind, rest) else none := by
    rw [group?, after?_append]
    simp only [Option.bind_eq_bind, Option.bind_some, htrim']
    by_cases hparen : c = '('
    · simp [hparen, after?]
    · simp [after?, hparen, Ne.symm hparen]
  have hsingle : single? kind (kind.keyword.spelling ++ ' ' :: c :: rest) =
      (nameFrom? isCapital (c :: rest)).map fun r => (.single kind r.1 r.2, []) := by
    rw [single?, after?_append]
    by_cases hcapital : isCapital c
    · simp [afterBlanks?, hblank, htrim, nameFrom?, hcapital, hlast]
    · simp [afterBlanks?, hblank, htrim, nameFrom?, hcapital]
  rw [ofLine?_keyword, hgroup, hsingle]
  by_cases hparen : c = '('
  · simp [hparen]
  · simp [hparen, Function.comp_def]

/-- A text of one line gives what the heading on this line gives. -/
theorem scan_of_newline_not_mem (origin : Origin) (hline : '\n' ∉ line) :
    scan origin line =
      (Heading.ofLine? (trim line)).toList.flatMap (Heading.declarations origin [] line []) := by
  have hlines := lines_of_newline_not_mem hline
  cases hheading : Heading.ofLine? (trim line) with
  | none =>
    rw [scan, hlines, scanLines, hheading, scanLines]
    rfl
  | some h =>
    rw [scan_eq_declarations origin hlines hheading (h.extent_singleton line), Option.toList_some,
      List.flatMap_singleton]

/-- A group that ends on its first line declares nothing. -/
theorem declarations_group_line (origin : Origin) :
    Heading.declarations origin [] line [] (.group kind) = [] := by
  simp only [Heading.declarations, Heading.extent_singleton, groupEntries]
  rfl

/-- What a single declaration declares: the entry of its line, when it is exported. -/
theorem scan_singleText (origin : Origin) (kind : ValueKind) (hline : '\n' ∉ line) :
    (scan origin (singleText kind line)).map Declaration.binding =
      (exportedOf? line).toList.map (Entry.binding kind) := by
  have hword : ∀ c ∈ kind.keyword.spelling, isBlank c = false := by
    have hall : kind.keyword.spelling.all (!isBlank ·) := by cases kind <;> rfl
    simpa using hall
  have hcode := newline_not_mem_codeOf hline
  have htext : '\n' ∉ singleText kind line := by
    rw [singleText, List.mem_append, List.mem_cons]
    rintro (hmem | hmem | hmem)
    · exact absurd (hword _ hmem) (by decide)
    · cases hmem
    · exact hcode hmem
  rw [scan_of_newline_not_mem origin htext, exportedOf?_of_codeOf rfl]
  rw [singleText]
  cases hc : codeOf line with
  | nil =>
    have hnone : Heading.ofLine? (trim (kind.keyword.spelling ++ [' '])) = none := by
      cases kind <;> rfl
    rw [hnone]
    rfl
  | cons c rest =>
    have hhead : (codeOf line).head? = some c := by rw [hc, List.head?_cons]
    have hblank : isBlank c = false := isBlank_head_trim hhead
    have htrim : trim (kind.keyword.spelling ++ ' ' :: c :: rest) =
        kind.keyword.spelling ++ ' ' :: c :: rest := by
      refine trim_eq_self (fun d hd => ?_) fun d hd => ?_
      · refine hword d ?_
        cases kind <;> (obtain rfl := Option.some.inj hd; decide)
      · have hlast : (codeOf line).getLast? = some d := by
          rwa [List.getLast?_append_cons, List.getLast?_cons_cons, ← hc] at hd
        exact isBlank_getLast_trim hlast
    rw [hc] at hcode
    rw [htrim, ofLine?_singleText hblank fun hmem => hcode (List.mem_cons_of_mem _ hmem)]
    by_cases hparen : c = '('
    · subst hparen
      rw [if_pos rfl, Option.toList_some, List.flatMap_singleton, declarations_group_line]
      rfl
    · rw [if_neg hparen]
      cases nameFrom? isCapital (c :: rest) with
      | none => rfl
      | some r => rfl

/-! ### Both ways -/

/-- **Groups and single declarations**: a group whose lines each close the parentheses that they
open declares what its lines declare one by one, each with the word of the group in front of its
code; what comes from a line stands on that line, the first of them being the second of the text. -/
theorem scan_group_eq_singles (origin : Origin) (kind : ValueKind) (ls : List Line)
    (hline : ∀ l ∈ ls, '\n' ∉ l) (hparens : ∀ l ∈ ls, l.count '(' = l.count ')') :
    (scan origin (groupText kind ls)).map (fun d => (d.binding, d.lineNumber)) =
      (ls.zipIdx 2).flatMap fun r =>
        (scan origin (singleText kind r.1)).map fun d => (d.binding, (r.2 : Int)) := by
  rw [scan_groupText origin hline hparens]
  refine List.flatMap_congr fun r hr => ?_
  have hsingle := scan_singleText origin kind (hline r.1 (List.fst_mem_of_mem_zipIdx hr))
  calc (exportedOf? r.1).toList.map (fun entry => (entry.binding kind, (r.2 : Int)))
      = ((exportedOf? r.1).toList.map (Entry.binding kind)).map (·, (r.2 : Int)) := by
        rw [List.map_map]; rfl
    _ = ((scan origin (singleText kind r.1)).map Declaration.binding).map (·, (r.2 : Int)) := by
        rw [hsingle]
    _ = (scan origin (singleText kind r.1)).map fun d => (d.binding, (r.2 : Int)) := by
        rw [List.map_map]; rfl

/-- A call, a name that is not exported, a comment, and two names before a carriage return. -/
theorem scan_group_eq_singles_of_four_lines :
    (scan ⟨"a.go", "root", 12⟩ (groupText .const
        ["\tA = f(1) // B = 2".toList, "c = 3".toList, "// D = 4".toList,
          "E, F int = (5), 6\r".toList])).map (fun d => (d.binding, d.lineNumber)) =
      [(("A", .const, some "f(1)"), 2), (("E", .const, some "(5), 6"), 5)] :=
  (scan_group_eq_singles _ _ _ (by decide) (by decide)).trans (by decide +kernel)

end Source

end GoIndex
