import GoIndex.Proofs.Source.Reading
import GoIndex.Proofs.Text.Lines
import GoIndex.Source.Imports

/-!
# Written imports

A source text is put together from segments (`ImportSegment`): an import of one path, imports in
parentheses over several lines, imports in parentheses on one line, and lines that are none of
these. The import paths of the text are the paths that the segments have, one behind the other
(`imports_of_segments`).

A segment is read without a look at what comes behind it (`ImportSegment.importsFrom_append`): the
parentheses that it opens it also closes, and a line that is no import leaves the reading where it
was. A line that is one has one of two patterns: it has a path (`IsSingleImport`), or it opens
parentheses (`OpensImports`). Without either it says nothing (`ofLine?_eq_none_iff`).
-/

namespace GoIndex.Source

open Text

variable {text path rest : List Char} {line : Line}

/-! ### The patterns of a line -/

/-- A trimmed line that imports one path. -/
def IsSingleImport (line : Line) (path : List Char) : Prop :=
  ∃ gap rest, IsGap gap ∧ path ≠ [] ∧ '"' ∉ path ∧
    line = importWord ++ (gap ++ '"' :: (path ++ '"' :: rest))

/-- A trimmed line that opens parentheses for imports, with some text behind them. -/
def OpensImports (line : Line) (rest : List Char) : Prop :=
  ∃ pad, (∀ c ∈ pad, isBlank c) ∧ line = importWord ++ (pad ++ '(' :: rest)

/-- A quoted path goes up to the next quote. -/
theorem quotedPath?_eq_some_iff :
    quotedPath? text = some path ↔
      path ≠ [] ∧ '"' ∉ path ∧ ∃ rest, text = '"' :: (path ++ '"' :: rest) := by
  simp only [quotedPath?, Option.bind_eq_bind, Option.bind_eq_some_iff, after?_eq_some_iff,
    List.singleton_append, Option.ite_none_left_eq_some, Option.map_eq_some_iff, List.isEmpty_iff]
  constructor
  · rintro ⟨inner, rfl, hne, rest, hdrop, rfl⟩
    refine ⟨hne, fun hmem => ?_, rest, ?_⟩
    · exact absurd (List.mem_takeWhile_imp hmem) (by decide)
    · rw [← hdrop, List.takeWhile_append_dropWhile]
  · rintro ⟨hne, hquote, rest, rfl⟩
    have hinside : ∀ c ∈ path, (c != '"') = true := by
      intro c hc
      simpa using fun heq : c = '"' => hquote (heq ▸ hc)
    have hend : ∀ c ∈ ('"' :: rest).head?, (c != '"') = false := forall_head?_cons (by decide) rest
    rw [← takeWhile_append_of_forall hinside hend] at hne
    exact ⟨_, rfl, hne, rest, dropWhile_append_of_forall hinside hend,
      takeWhile_append_of_forall hinside hend⟩

/-- What stands in front of a quoted path is white space. -/
theorem isSingleImport_iff :
    IsSingleImport line path ↔
      ∃ on, after? importWord line = some on ∧ (afterBlanks? on).bind quotedPath? = some path := by
  simp only [IsSingleImport, after?_eq_some_iff, Option.bind_eq_some_iff, afterBlanks?_eq_some_iff,
    quotedPath?_eq_some_iff]
  constructor
  · rintro ⟨gap, rest, hgap, hne, hquote, rfl⟩
    exact ⟨_, rfl, _, ⟨gap, hgap, rfl, forall_head?_cons (by decide) _⟩, hne, hquote, rest, rfl⟩
  · rintro ⟨_, rfl, _, ⟨gap, hgap, rfl, -⟩, hne, hquote, rest, rfl⟩
    exact ⟨gap, rest, hgap, hne, hquote, rfl⟩

theorem opensImports_iff :
    OpensImports line rest ↔
      ∃ on, after? importWord line = some on ∧ after? ['('] (trimLeft on) = some rest := by
  simp only [OpensImports, after?_eq_some_iff, List.singleton_append]
  constructor
  · rintro ⟨pad, hpad, rfl⟩
    exact ⟨_, rfl, trimLeft_append hpad (forall_head?_cons (by decide) rest)⟩
  · rintro ⟨on, rfl, htrim⟩
    obtain ⟨pad, hpad, hon, -⟩ := exists_append_trimLeft on
    exact ⟨pad, hpad, by rw [← htrim, ← hon]⟩

/-- A line that opens parentheses has no quote where a path would start. -/
theorem OpensImports.not_isSingleImport (h : OpensImports line rest) (path : List Char) :
    ¬ IsSingleImport line path := by
  rintro ⟨gap, behind, hgap, -, -, hline⟩
  obtain ⟨pad, hpad, rfl⟩ := h
  have htrim := congrArg trimLeft (List.append_cancel_left hline)
  rw [trimLeft_append hpad (forall_head?_cons (by decide) _),
    trimLeft_append hgap.2 (forall_head?_cons (by decide) _)] at htrim
  cases htrim

/-! ### What a line says -/

theorem ofLine?_of_isSingleImport (h : IsSingleImport line path) :
    ImportLine.ofLine? line = some (.single path) := by
  obtain ⟨on, hon, hpath⟩ := isSingleImport_iff.mp h
  simp [ImportLine.ofLine?, hon, hpath]

/-- The items of parentheses that are closed on their own line, as far as they are paths. -/
def inlinePaths (items : List Char) : List (List Char) :=
  ((items.takeWhile (· != ')')).splitOn ';').filterMap (itemPath? <| trim ·)

theorem ofLine?_of_opensImports (h : OpensImports line rest) :
    ImportLine.ofLine? line =
      some (if ')' ∈ rest then .inline (inlinePaths rest) else .opening) := by
  obtain ⟨on, hon, hrest⟩ := opensImports_iff.mp h
  have hnone : (afterBlanks? on).bind quotedPath? = none := by
    rw [Option.eq_none_iff_forall_not_mem]
    exact fun path hpath => h.not_isSingleImport path (isSingleImport_iff.mpr ⟨on, hon, hpath⟩)
  simp only [ImportLine.ofLine?, hon, Option.bind_eq_bind, Option.bind_some, hnone, hrest,
    List.contains_iff_mem, inlinePaths]
  split_ifs <;> rfl

/-- **Other lines**: a line says nothing about imports when it has neither pattern. -/
theorem ofLine?_eq_none_iff :
    ImportLine.ofLine? line = none ↔
      (∀ path, ¬ IsSingleImport line path) ∧ ∀ rest, ¬ OpensImports line rest := by
  constructor
  · intro hnone
    refine ⟨fun path hsingle => ?_, fun rest hopens => ?_⟩
    · rw [ofLine?_of_isSingleImport hsingle] at hnone
      cases hnone
    · rw [ofLine?_of_opensImports hopens] at hnone
      cases hnone
  · rintro ⟨hsingle, hopens⟩
    rcases hon : after? importWord line with _ | on
    · simp [ImportLine.ofLine?, hon]
    · have hpath : (afterBlanks? on).bind quotedPath? = none := by
        rw [Option.eq_none_iff_forall_not_mem]
        exact fun path hpath => hsingle path (isSingleImport_iff.mpr ⟨on, hon, hpath⟩)
      have hparen : after? ['('] (trimLeft on) = none := by
        rw [Option.eq_none_iff_forall_not_mem]
        exact fun rest hrest => hopens rest (opensImports_iff.mpr ⟨on, hon, hrest⟩)
      simp [ImportLine.ofLine?, hon, hpath, hparen]

/-! ### Items in parentheses -/

/-- A name before a path, with white space behind it, or no name. -/
inductive IsLabel : List Char → Prop
  | nothing : IsLabel []
  | named {name gap : List Char} (hname : IsName isNameStart name) (hgap : IsGap gap) :
    IsLabel (name ++ gap)

/-- A text that imports a path in parentheses, maybe under another name. -/
inductive ImportItem : List Char → List Char → Prop
  | written {left label path right : List Char} (hleft : ∀ c ∈ left, isBlank c)
    (hlabel : IsLabel label) (hne : path ≠ []) (hquote : '"' ∉ path)
    (hright : ∀ c ∈ right, isBlank c) :
    ImportItem (left ++ (label ++ '"' :: (path ++ ['"']) ++ right)) path

/-- A line in parentheses, and the path that it imports, if any. -/
inductive BlockLine : Line → Option (List Char) → Prop
  | item {line : Line} {path : List Char} (hitem : ImportItem line path) :
    BlockLine line (some path)
  | blank {line : Line} (hline : ∀ c ∈ line, isBlank c) : BlockLine line none
  | comment {indent : List Char} (text : List Char) (hindent : ∀ c ∈ indent, isBlank c) :
    BlockLine (indent ++ '/' :: '/' :: text) none

theorem IsLabel.head?_not_isBlank {label : List Char} (h : IsLabel label) (text : List Char) :
    ∀ c ∈ (label ++ '"' :: text).head?, isBlank c = false := by
  rcases h with _ | ⟨hname, hgap⟩
  · exact forall_head?_cons (by decide) text
  · rw [List.append_assoc]
    exact fun c hc => isBlank_of_isWord (hname.head?_isWord _ c hc)

/-- A quoted path is found behind a name and without one. -/
theorem IsLabel.itemPath?_append {label : List Char} (h : IsLabel label) (hne : path ≠ [])
    (hquote : '"' ∉ path) : itemPath? (label ++ '"' :: (path ++ ['"'])) = some path := by
  have hpath : quotedPath? ('"' :: (path ++ ['"'])) = some path :=
    quotedPath?_eq_some_iff.mpr ⟨hne, hquote, [], rfl⟩
  rcases h with _ | ⟨hname, hgap⟩
  · rw [List.nil_append, itemPath?, hpath]
    rfl
  · rename_i name gap
    have hread : nameFrom? isNameStart (name ++ gap ++ '"' :: (path ++ ['"'])) =
        some (name, gap ++ '"' :: (path ++ ['"'])) :=
      nameFrom?_eq_some_iff.mpr ⟨hname, List.append_assoc _ _ _, hgap.head?_not_isWord _⟩
    have hblanks : afterBlanks? (gap ++ '"' :: (path ++ ['"'])) =
        some ('"' :: (path ++ ['"'])) :=
      afterBlanks?_eq_some_iff.mpr ⟨gap, hgap, rfl, forall_head?_cons (by decide) _⟩
    simp only [itemPath?, hread, Option.bind_some, hblanks, hpath]
    rfl

theorem ImportItem.trim_eq {item : List Char} (h : ImportItem item path) :
    ∃ label, IsLabel label ∧ path ≠ [] ∧ '"' ∉ path ∧
      trim item = label ++ '"' :: (path ++ ['"']) := by
  obtain ⟨hleft, hlabel, hne, hquote, hright⟩ := h
  rename_i left label right
  refine ⟨label, hlabel, hne, hquote, ?_⟩
  rw [trim_append_left hleft, trim_append_right hright]
  refine trim_eq_self (hlabel.head?_not_isBlank _) ?_
  rw [← List.cons_append, ← List.append_assoc]
  exact forall_getLast?_concat (by decide) _

theorem ImportItem.itemPath?_trim {item : List Char} (h : ImportItem item path) :
    itemPath? (trim item) = some path := by
  obtain ⟨label, hlabel, hne, hquote, htrim⟩ := h.trim_eq
  rw [htrim, hlabel.itemPath?_append hne hquote]

/-- Apart from its path, an item has quotes, word characters and white space only. -/
theorem ImportItem.not_mem {item : List Char} (h : ImportItem item path) {c : Char}
    (hblank : isBlank c = false) (hword : isWord c = false) (hquote : c ≠ '"') (hpath : c ∉ path) :
    c ∉ item := by
  obtain ⟨hleft, hlabel, -, -, hright⟩ := h
  rename_i left label right
  have hname : c ∉ label := by
    rcases hlabel with _ | ⟨hname, hgap⟩
    · exact List.not_mem_nil
    · exact List.not_mem_append (hname.not_mem hword) (not_mem_of_forall hgap.2 hblank)
  simp [not_mem_of_forall hleft hblank, not_mem_of_forall hright hblank, hname, hquote, hpath]

/-- Text that starts with neither a name nor a quote is no item. -/
theorem itemPath?_cons_eq_none {c : Char} (hname : isNameStart c = false) (hquote : c ≠ '"')
    (text : List Char) : itemPath? (c :: text) = none := by
  have hread : nameFrom? isNameStart (c :: text) = none := by simp [nameFrom?, hname]
  have hpath : quotedPath? (c :: text) = none := by
    rw [Option.eq_none_iff_forall_ne_some]
    intro path hsome
    obtain ⟨-, -, rest, heq⟩ := quotedPath?_eq_some_iff.mp hsome
    exact hquote (List.cons.inj heq).1
  simp only [itemPath?, hread, Option.bind_none, hpath]
  rfl

/-- A line in parentheses is not their end, and is read for what it imports. -/
theorem BlockLine.reading {path? : Option (List Char)} (h : BlockLine line path?) :
    trim line ≠ [')'] ∧ itemPath? (trim line) = path? := by
  rcases h with hitem | hline | ⟨text, hindent⟩
  · refine ⟨fun hend => ?_, hitem.itemPath?_trim⟩
    obtain ⟨label, -, -, -, htrim⟩ := hitem.trim_eq
    have hmem : '"' ∈ [')'] := by simp [← hend, htrim]
    exact absurd hmem (by decide)
  · rw [trim_eq_nil_iff.mpr hline]
    exact ⟨(List.cons_ne_nil _ _).symm, rfl⟩
  · have htrim : trim ('/' :: '/' :: text) = '/' :: '/' :: trimRight text := by
      rw [trim, trimLeft_cons_of_not_blank (by decide)]
      have hslashes : trimRight (['/', '/'] ++ text) = ['/', '/'] ++ trimRight text :=
        trimRight_append (forall_getLast?_concat (by decide) ['/']) text
      exact hslashes
    rw [trim_append_left hindent, htrim]
    exact ⟨by simp, itemPath?_cons_eq_none (by decide) (by decide) _⟩

/-! ### Segments -/

/-- Lines of a source text that belong together, and the paths that they import. -/
inductive ImportSegment : List Line → List (List Char) → Prop
  | single {line : Line} {path : List Char} (hline : IsSingleImport (trim line) path) :
    ImportSegment [line] [path]
  | block {opening closing : Line} {rows : List (Line × Option (List Char))}
    (hopening : OpensImports (trim opening) []) (hrows : ∀ row ∈ rows, BlockLine row.1 row.2)
    (hclosing : trim closing = [')']) :
    ImportSegment (opening :: (rows.map Prod.fst ++ [closing])) (rows.filterMap Prod.snd)
  | inline {line : Line} {items : List (List Char × List Char)}
    (hitems : ∀ item ∈ items, ImportItem item.1 item.2 ∧ ')' ∉ item.2 ∧ ';' ∉ item.2)
    (hline : OpensImports (trim line) ([';'].intercalate (items.map Prod.fst) ++ [')'])) :
    ImportSegment [line] (items.map Prod.snd)
  | other {line : Line} (hsingle : ∀ path, ¬ IsSingleImport (trim line) path)
    (hopens : ∀ rest, ¬ OpensImports (trim line) rest) : ImportSegment [line] []

/-- Inside parentheses, lines are read one by one up to the closing parenthesis. -/
theorem importsFrom_true_append {rows : List (Line × Option (List Char))} {closing : Line}
    (hrows : ∀ row ∈ rows, BlockLine row.1 row.2) (hclosing : trim closing = [')'])
    (rest : List Line) :
    importsFrom true (rows.map Prod.fst ++ closing :: rest) =
      rows.filterMap Prod.snd ++ importsFrom false rest := by
  induction rows with
  | nil => simp [importsFrom, hclosing]
  | cons row rows ih =>
    obtain ⟨hrow, hrows⟩ := List.forall_mem_cons.mp hrows
    obtain ⟨hend, hread⟩ := hrow.reading
    simp only [List.map_cons, List.cons_append, importsFrom, if_neg hend, hread, ih hrows]
    rcases hpath : row.2 with _ | path <;> simp [hpath]

/-- Items on one line are cut apart at the semicolons between them. -/
theorem inlinePaths_intercalate {items : List (List Char × List Char)}
    (hitems : ∀ item ∈ items, ImportItem item.1 item.2 ∧ ')' ∉ item.2 ∧ ';' ∉ item.2) :
    inlinePaths ([';'].intercalate (items.map Prod.fst) ++ [')']) = items.map Prod.snd := by
  have hsemi : ∀ item ∈ items.map Prod.fst, ';' ∉ item := by
    intro item hitem
    obtain ⟨pair, hpair, rfl⟩ := List.mem_map.mp hitem
    obtain ⟨hwritten, -, hpath⟩ := hitems pair hpair
    exact hwritten.not_mem (by decide) (by decide) (by decide) hpath
  have hparen : ∀ c ∈ [';'].intercalate (items.map Prod.fst), (c != ')') = true := by
    intro c hc
    rw [bne_iff_ne]
    rintro rfl
    rcases mem_intercalate_singleton hc with hsep | hin
    · cases hsep
    · obtain ⟨item, hitem, hmem⟩ := List.mem_flatten.mp hin
      obtain ⟨pair, hpair, rfl⟩ := List.mem_map.mp hitem
      obtain ⟨hwritten, hpath, -⟩ := hitems pair hpair
      exact hwritten.not_mem (by decide) (by decide) (by decide) hpath hmem
  rw [inlinePaths, takeWhile_append_of_forall hparen (by simp)]
  by_cases hnil : items = []
  · rw [hnil]
    rfl
  · rw [List.splitOn_intercalate ';' hsemi (by simpa using hnil), List.filterMap_map,
      ← List.filterMap_eq_map]
    exact List.filterMap_congr fun item hitem => (hitems item hitem).1.itemPath?_trim

/-- **One segment**: what it imports comes first, and then what the lines behind it import. -/
theorem ImportSegment.importsFrom_append {ls : List Line} {paths : List (List Char)}
    (h : ImportSegment ls paths) (rest : List Line) :
    importsFrom false (ls ++ rest) = paths ++ importsFrom false rest := by
  rcases h with hline | ⟨hopening, hrows, hclosing⟩ | ⟨hitems, hline⟩ | ⟨hsingle, hopens⟩
  · simp [importsFrom, ofLine?_of_isSingleImport hline]
  · simp [importsFrom, ofLine?_of_opensImports hopening, importsFrom_true_append hrows hclosing]
  · simp [importsFrom, ofLine?_of_opensImports hline, inlinePaths_intercalate hitems]
  · simp [importsFrom, ofLine?_eq_none_iff.mpr ⟨hsingle, hopens⟩]

/-- **A run of segments**: the paths of all of them, one behind the other. -/
theorem importsFrom_flatMap {parts : List (List Line × List (List Char))}
    (hparts : ∀ part ∈ parts, ImportSegment part.1 part.2) :
    importsFrom false (parts.flatMap Prod.fst) = parts.flatMap Prod.snd := by
  induction parts with
  | nil => rfl
  | cons part parts ih =>
    obtain ⟨hpart, hparts⟩ := List.forall_mem_cons.mp hparts
    rw [List.flatMap_cons, List.flatMap_cons, hpart.importsFrom_append, ih hparts]

/-! ### The text -/

/-- White space around a line makes no difference. -/
theorem importsFrom_map_trim (inside : Bool) (ls : List Line) :
    importsFrom inside (ls.map trim) = importsFrom inside ls := by
  induction ls generalizing inside with
  | nil => rfl
  | cons line ls ih =>
    cases inside with
    | false => simp only [List.map_cons, importsFrom, trim_trim, ih]
    | true => simp only [List.map_cons, importsFrom, trim_trim, ih]

theorem imports_unlines {ls : List Line} (hline : ∀ line ∈ ls, '\n' ∉ line) :
    imports (unlines ls) = (importsFrom false ls).map String.ofList := by
  by_cases hnil : ls = []
  · rw [hnil]
    rfl
  · rw [imports, lines_unlines hnil hline, ← importsFrom_map_trim, map_trim_chopReturns,
      importsFrom_map_trim]

/-- **Imports are recovered**: the import paths of a text are those of its segments, in order and
with repetitions. -/
theorem imports_of_segments {parts : List (List Line × List (List Char))}
    (hparts : ∀ part ∈ parts, ImportSegment part.1 part.2)
    (hline : ∀ part ∈ parts, ∀ line ∈ part.1, '\n' ∉ line) :
    imports (unlines (parts.flatMap Prod.fst)) = (parts.flatMap Prod.snd).map String.ofList := by
  rw [imports_unlines, importsFrom_flatMap hparts]
  intro line hmem
  obtain ⟨part, hpart, hin⟩ := List.mem_flatMap.mp hmem
  exact hline part hpart line hin

/-- Code that starts like an import, a path before a carriage return, a block with a name, a blank
line and a comment that quotes a path, and two items on one line. -/
theorem imports_of_segments_of_four :
    let rows : List (Line × Option (List Char)) :=
      [(['\t'] ++ ((['_'] ++ [' ']) ++ '"' :: ("os".toList ++ ['"']) ++ []), some "os".toList),
        ([' '], none),
        (['\t'] ++ '/' :: '/' :: " \"io\"".toList, none)]
    let items : List (List Char × List Char) :=
      [([] ++ ([] ++ '"' :: ("x/y".toList ++ ['"']) ++ []), "x/y".toList),
        ([' '] ++ ((['f'] ++ [' ']) ++ '"' :: ("fmt".toList ++ ['"']) ++ []), "fmt".toList)]
    let parts : List (List Line × List (List Char)) :=
      [(["importing := \"a\"".toList], []),
        (["import \"fmt\"\r".toList], ["fmt".toList]),
        ("import (".toList :: (rows.map Prod.fst ++ [")".toList]), rows.filterMap Prod.snd),
        (["import(\"x/y\"; f \"fmt\")".toList], items.map Prod.snd)]
    imports (unlines (parts.flatMap Prod.fst)) = ["fmt", "os", "x/y", "fmt"] := by
  intro rows items parts
  have hrows : ∀ row ∈ rows, BlockLine row.1 row.2 := by
    simp only [rows, List.forall_mem_cons, List.not_mem_nil, false_implies, implies_true, and_true]
    refine ⟨.item (.written (by decide) ?_ (by decide) (by decide +kernel) (by decide)),
      .blank (by decide), .comment _ (by decide)⟩
    exact .named ⟨'_', [], rfl, by decide, by decide⟩ ⟨by decide, by decide⟩
  have hitems : ∀ item ∈ items, ImportItem item.1 item.2 ∧ ')' ∉ item.2 ∧ ';' ∉ item.2 := by
    simp only [items, List.forall_mem_cons, List.not_mem_nil, false_implies, implies_true, and_true]
    refine ⟨⟨.written (by decide) .nothing (by decide) (by decide +kernel) (by decide),
        by decide +kernel⟩,
      .written (by decide) ?_ (by decide) (by decide +kernel) (by decide), by decide +kernel⟩
    exact .named ⟨'f', [], rfl, by decide, by decide⟩ ⟨by decide, by decide⟩
  have hparts : ∀ part ∈ parts, ImportSegment part.1 part.2 := by
    simp only [parts, List.forall_mem_cons, List.not_mem_nil, false_implies, implies_true, and_true]
    refine ⟨?_, ?_, ?_, ?_⟩
    · have hnone : ImportLine.ofLine? (trim "importing := \"a\"".toList) = none := by
        decide +kernel
      obtain ⟨hsingle, hopens⟩ := ofLine?_eq_none_iff.mp hnone
      exact .other hsingle hopens
    · exact .single ⟨[' '], [], ⟨by decide, by decide⟩, by decide, by decide +kernel,
        by decide +kernel⟩
    · exact .block ⟨[' '], by decide, by decide +kernel⟩ hrows (by decide)
    · exact .inline hitems ⟨[], by decide, by decide +kernel⟩
  exact (imports_of_segments hparts (by decide +kernel)).trans (by decide +kernel)

end GoIndex.Source
