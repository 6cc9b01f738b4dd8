import GoIndex.Proofs.Source.Body
import GoIndex.Proofs.Source.Comment

/-!
# Fields of a struct

The lines of a struct are fields, blank lines, comments and embedded types (`StructLine`). Of these
a scan reads the fields, and it reads them as they are written (`scan_struct_fields`).

Two facts carry this. The code of a line ends where the line has its first comment mark, and no mark
comes about where the parts of a field meet, since there is white space between them
(`codeOf_field`). And a line without white space inside its code has no field
(`fieldOf?_eq_none_of_token`), which settles the three other kinds of line at once: a blank line and
a comment are lines with no code at all.
-/

namespace GoIndex.Source

open Text

variable {name type : List Char}

/-! ### Lines of a struct -/

/-- Which lines stand in a struct, and the name and the type of the field on each, if it has one.
The type of a field has no comment mark in it, and a comment behind it has white space before it.
An embedded type is a single token. -/
inductive StructLine : Line → Option (List Char × List Char) → Prop
  | field {indent name gap type remark : List Char} (hindent : ∀ c ∈ indent, isBlank c)
    (hname : IsName isNameStart name) (hgap : IsGap gap) (hne : type ≠ [])
    (htrim : trim type = type) (hmark : ¬ ['/', '/'] <:+: type) (hremark : IsRemark remark)
    (hapart : remark.head? ≠ some '/') :
    StructLine (indent ++ (name ++ (gap ++ (type ++ remark)))) (some (name, type))
  | blank {line : Line} (hline : ∀ c ∈ line, isBlank c) : StructLine line none
  | comment {indent : List Char} (text : List Char) (hindent : ∀ c ∈ indent, isBlank c) :
    StructLine (indent ++ '/' :: '/' :: text) none
  | embedded {indent token remark : List Char} (hindent : ∀ c ∈ indent, isBlank c)
    (htoken : ∀ c ∈ token, isBlank c = false) (hremark : IsRemark remark) :
    StructLine (indent ++ (token ++ remark)) none

/-- The field with a name and a type. -/
def fieldMember (name type : List Char) : Member :=
  { name := String.ofList name, type := String.ofList type }

/-! ### One line -/

/-- The code of a field is its name, white space and its type. -/
theorem codeOf_field {indent gap remark : List Char} (hindent : ∀ c ∈ indent, isBlank c)
    (hname : IsName isNameStart name) (hgap : IsGap gap) (hne : type ≠ [])
    (htrim : trim type = type) (hmark : ¬ ['/', '/'] <:+: type) (hremark : IsRemark remark)
    (hapart : remark.head? ≠ some '/') :
    codeOf (indent ++ (name ++ (gap ++ (type ++ remark)))) = name ++ (gap ++ type) := by
  have hslash : '/' ∉ name := hname.not_mem (by decide)
  have hcut : cutComment (indent ++ (name ++ (gap ++ (type ++ remark)))) =
      indent ++ (name ++ (gap ++ type) ++ cutComment remark) := by
    rw [cutComment_append_of_slash_not_mem (not_mem_of_forall hindent (by decide)),
      cutComment_append_of_slash_not_mem hslash,
      cutComment_append_of_slash_not_mem (not_mem_of_forall hgap.2 (by decide)),
      cutComment_append_of_not_infix hmark fun _ => hapart]
    simp only [List.append_assoc]
  rw [codeOf, hcut, trim_append_left hindent, trim_append_right hremark.isBlank_cutComment]
  refine trim_eq_self (fun c hc => ?_) fun c hc => ?_
  · exact isBlank_of_isWord (hname.head?_isWord _ c hc)
  · rw [List.getLast?_append_of_ne_nil _ (by simp [hne]), List.getLast?_append_of_ne_nil _ hne,
      ← htrim] at hc
    exact isBlank_getLast_trim hc

/-- A field is read as it is written. -/
theorem fieldOf?_of_codeOf {line : Line} {gap : List Char} (hname : IsName isNameStart name)
    (hgap : IsGap gap) (hne : type ≠ []) (htrim : trim type = type)
    (hcode : codeOf line = name ++ (gap ++ type)) :
    fieldOf? line = some (fieldMember name type) := by
  have hend : ∀ c ∈ (gap ++ type).head?, isWord c = false := hgap.head?_not_isWord type
  have htype : ∀ c ∈ type.head?, isBlank c = false := by
    intro c hc
    rw [← htrim] at hc
    exact isBlank_head_trim hc
  have hread : nameFrom? isNameStart (codeOf line) = some (name, gap ++ type) :=
    nameFrom?_eq_some_iff.mpr ⟨hname, hcode, hend⟩
  have hblanks : afterBlanks? (gap ++ type) = some type :=
    afterBlanks?_eq_some_iff.mpr ⟨gap, hgap, rfl, htype⟩
  simp [fieldOf?, hread, hblanks, hne, fieldMember]

/-- What is left of a token with a remark behind it has white space at its end only. -/
theorem exists_cutComment_token {token remark : List Char}
    (htoken : ∀ c ∈ token, isBlank c = false) (hremark : IsRemark remark) :
    ∃ code blanks, cutComment (token ++ remark) = code ++ blanks ∧
      (∀ c ∈ code, isBlank c = false) ∧ ∀ c ∈ blanks, isBlank c := by
  induction token with
  | nil => exact ⟨[], cutComment remark, rfl, by simp, hremark.isBlank_cutComment⟩
  | cons c token ih =>
    obtain ⟨hc, htoken⟩ := List.forall_mem_cons.mp htoken
    obtain ⟨code, blanks, hcut, hcode, hblanks⟩ := ih htoken
    rw [List.cons_append, cutComment.eq_def]
    split
    · exact ⟨[], [], rfl, by simp, by simp⟩
    · rename_i d rest _ heq
      obtain ⟨rfl, rfl⟩ := List.cons.inj heq
      exact ⟨c :: code, blanks, by rw [hcut, List.cons_append],
        List.forall_mem_cons.mpr ⟨hc, hcode⟩, hblanks⟩
    · rename_i heq
      cases heq

/-- **A token is no field**: a field has white space between its name and its type. -/
theorem fieldOf?_eq_none_of_token (indent token remark : List Char)
    (hindent : ∀ c ∈ indent, isBlank c) (htoken : ∀ c ∈ token, isBlank c = false)
    (hremark : IsRemark remark) : fieldOf? (indent ++ (token ++ remark)) = none := by
  obtain ⟨code, blanks, hcut, hcode, hblanks⟩ := exists_cutComment_token htoken hremark
  have hline : codeOf (indent ++ (token ++ remark)) = code := by
    rw [codeOf, cutComment_append_of_slash_not_mem (not_mem_of_forall hindent (by decide)), hcut,
      trim_append_left hindent, trim_append_right hblanks]
    exact trim_eq_self (fun c hc => hcode c (List.mem_of_head? hc))
      fun c hc => hcode c (List.mem_of_getLast? hc)
  rw [fieldOf?, hline]
  rcases hread : nameFrom? isNameStart code with _ | ⟨name, rest⟩
  · rfl
  · have hnone : afterBlanks? rest = none := by
      rw [Option.eq_none_iff_forall_not_mem]
      intro type htype
      obtain ⟨gap, hgap, rfl, -⟩ := afterBlanks?_eq_some_iff.mp htype
      obtain ⟨b, more, rfl, hb⟩ := hgap.exists_cons
      have hmem : b ∈ code := (isSuffix_of_nameFrom? hread).subset (by simp)
      rw [hcode b hmem] at hb
      cases hb
    simp [hnone]

/-- **One line**: what is read from a line of a struct is the field that it has, if any. -/
theorem StructLine.fieldOf?_eq {line : Line} {field : Option (List Char × List Char)}
    (h : StructLine line field) : fieldOf? line = field.map fun f => fieldMember f.1 f.2 := by
  cases h with
  | field hindent hname hgap hne htrim hmark hremark hapart =>
    exact fieldOf?_of_codeOf hname hgap hne htrim
      (codeOf_field hindent hname hgap hne htrim hmark hremark hapart)
  | blank hline =>
    exact fieldOf?_eq_none_of_token [] [] line (by simp) (by simp) (.blanks hline)
  | comment text hindent =>
    exact fieldOf?_eq_none_of_token _ [] _ hindent (by simp) (.comment [] text (by simp))
  | embedded hindent htoken hremark =>
    exact fieldOf?_eq_none_of_token _ _ _ hindent htoken hremark

/-! ### The whole struct -/

/-- The line that opens a struct. -/
def structHeader (name : List Char) : Line :=
  Keyword.type.spelling ++ ' ' :: (name ++ ' ' :: (Keyword.struct.spelling ++ [' ', '{']))

theorem read?_structHeader (hname : IsName isCapital name) :
    Form.struct.read? (structHeader name) = some (.struct name, []) := by
  have hbody : body? .struct (structHeader name) = some (name, []) :=
    body?_eq_some_iff.mpr ⟨[' '], [], [' '], [' '], ⟨by decide, by decide⟩, hname, .inl rfl,
      ⟨by decide, by decide⟩, by decide, rfl⟩
  rw [Form.read?, hbody, Option.map_some]

/-- The line that opens a struct is a header: a name has no braces. -/
theorem isHeader_structHeader (hname : IsName isCapital name) :
    IsHeader .struct (structHeader name) := by
  have hopening : name.count '{' = 0 :=
    List.count_eq_zero.mpr (hname.of_isCapital.not_mem (by decide))
  have hclosing : '}' ∉ name := hname.of_isCapital.not_mem (by decide)
  have hend : structHeader name = Keyword.type.spelling ++
      ' ' :: (name ++ ' ' :: (Keyword.struct.spelling ++ [' '])) ++ ['{'] := by
    simp [structHeader]
  refine ⟨.inr rfl, by rw [read?_structHeader hname]; rfl, ?_, ?_, ?_⟩
  · rw [hend, List.getLast?_concat]
  · simp [structHeader, Keyword.spelling, hopening]
  · simp [structHeader, Keyword.spelling, hclosing]

theorem newline_not_mem_structHeader (hname : IsName isCapital name) :
    '\n' ∉ structHeader name := by
  have hnot : '\n' ∉ name := hname.of_isCapital.not_mem (by decide)
  simp [structHeader, Keyword.spelling, hnot]

theorem ofLine?_structHeader (hname : IsName isCapital name) :
    Heading.ofLine? (trim (structHeader name)) = some (.struct name) := by
  have htrim : trim (structHeader name) = structHeader name := by
    refine trim_eq_self (Keyword.type.head?_not_isBlank _) fun c hc => ?_
    rw [(isHeader_structHeader hname).getLast_eq] at hc
    obtain rfl := Option.some.inj hc
    decide
  rw [htrim]
  exact Heading.ofLine?_of_read? (newline_not_mem_structHeader hname) (read?_structHeader hname)

/-- **Fields**: a struct whose lines are fields, blank lines, comments and embedded types, each with
as many closing as opening braces, is all that a scan of its text declares. It stands on the first
line, and its members are the fields in order, with the names and types that are written. -/
theorem scan_struct_fields (origin : Origin) (name : List Char) (hname : IsName isCapital name)
    (body : List (Line × Option (List Char × List Char)))
    (hbody : ∀ r ∈ body, StructLine r.1 r.2) (hnewline : ∀ r ∈ body, '\n' ∉ r.1)
    (hbraces : ∀ r ∈ body, r.1.count '{' = r.1.count '}') :
    ∃ d, scan origin (spreadText (structHeader name) (body.map Prod.fst)) = [d] ∧
      d.name = String.ofList name ∧ d.kind = .struct ∧ d.lineNumber = 1 ∧
      d.members = (body.filterMap Prod.snd).map fun f => fieldMember f.1 f.2 := by
  have hlines : ∀ line ∈ body.map Prod.fst, '\n' ∉ line := by simpa using hnewline
  have hcount : ∀ line ∈ body.map Prod.fst, line.count '{' = line.count '}' := by
    simpa using hbraces
  obtain ⟨hblock, hscan⟩ := scan_spreadText origin (isHeader_structHeader hname)
    (newline_not_mem_structHeader hname) hlines hcount (ofLine?_structHeader hname) rfl
  have hmembers : structMembers (structHeader name ::
      ((body.map Prod.fst).map chopReturn ++ [['}']])) =
        (body.filterMap Prod.snd).map fun f => fieldMember f.1 f.2 := by
    rw [structMembers, bodyItems_spread, List.filterMap_map, List.filterMap_map,
      List.map_filterMap]
    refine List.filterMap_congr fun r hr => ?_
    rw [Function.comp_apply, Function.comp_apply, fieldOf?_chopReturn, (hbody r hr).fieldOf?_eq]
  refine ⟨_, hscan, rfl, rfl, rfl, ?_⟩
  exact (congrArg structMembers hblock).trans hmembers

/-- A field with braces in its type and a mark in its comment, a comment, a blank line, an embedded
type with a comment right behind it, and a field before a carriage return. -/
theorem scan_struct_fields_of_five_lines :
    let body : List (Line × Option (List Char × List Char)) :=
      [(['\t'] ++ (['A'] ++ ([' '] ++ ("struct\x7b B int \x7d".toList ++
          ([' '] ++ '/' :: '/' :: " a // b".toList)))),
          some (['A'], "struct\x7b B int \x7d".toList)),
        (['\t'] ++ '/' :: '/' :: " C int".toList, none),
        ([], none),
        (['\t'] ++ ("*Embedded".toList ++ ([] ++ '/' :: '/' :: " D int".toList)), none),
        ([] ++ (['_', 'e'] ++ (['\t'] ++ ("[]string".toList ++ ['\r']))),
          some (['_', 'e'], "[]string".toList))]
    ∃ d, scan ⟨"a.go", "root", 12⟩ (spreadText (structHeader "Device".toList)
        (body.map Prod.fst)) = [d] ∧
      d.name = "Device" ∧ d.kind = .struct ∧ d.lineNumber = 1 ∧
      d.members = [{ name := "A", type := "struct\x7b B int \x7d" },
        { name := "_e", type := "[]string" }] := by
  intro body
  have hbody : ∀ r ∈ body, StructLine r.1 r.2 := by
    simp only [body, List.forall_mem_cons, List.not_mem_nil, false_implies, implies_true, and_true]
    refine ⟨?_, ?_, ?_, ?_, ?_⟩
    · exact .field (by decide) ⟨'A', [], rfl, by decide, by decide⟩ ⟨by decide, by decide⟩
        (by decide) (by decide +kernel) (by decide +kernel) (.comment _ _ (by decide)) (by decide)
    · exact .comment _ (by decide)
    · exact .blank (by decide)
    · exact .embedded (by decide) (by decide +kernel) (.comment _ _ (by decide))
    · exact .field (by decide) ⟨'_', ['e'], rfl, by decide, by decide⟩ ⟨by decide, by decide⟩
        (by decide) (by decide +kernel) (by decide +kernel) (.blanks (by decide)) (by decide)
  have hname : IsName isCapital "Device".toList :=
    ⟨'D', "evice".toList, by decide, by decide, by decide⟩
  obtain ⟨d, hscan, hd, hkind, hplace, hmembers⟩ := scan_struct_fields ⟨"a.go", "root", 12⟩
    "Device".toList hname body hbody (by decide +kernel) (by decide +kernel)
  exact ⟨d, hscan, hd, hkind, hplace, hmembers.trans (by decide +kernel)⟩

end GoIndex.Source
