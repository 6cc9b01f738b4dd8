import GoIndex.Proofs.Source.Forms
import GoIndex.Proofs.Source.Group
import GoIndex.Proofs.Source.Signature

/-!
# Names on their lines

A declared name is exported, is part of the signature, and stands as a word on the line of its
declaration (`scan_names_stand_as_words`). There is one exception: on a line with nothing but the
word of a type and an identifier, the last letter of the identifier is taken for the value
(`type?_eq_some`), and what is left of it is the name.

For a heading this is a matter of how the line is spelled: in front of the name stands white space,
or the parenthesis of a receiver, and behind it what cannot be part of a name
(`Heading.name_on_line`). For an entry of a group it has to be carried from the code of the line to
the line itself (`standsAsWord_of_entryOf?`): behind the code stands white space or a comment.
-/

namespace GoIndex.Source

open Text

variable {line name rest : List Char}

/-! ### Bare types -/

/-- A line that is the word of a type, white space, and one identifier of two letters or more. -/
structure IsBareType (ident line : List Char) : Prop where
  two_le_length : 2 ≤ ident.length
  isWord : ∀ c ∈ ident, isWord c
  spelled : ∃ gap, IsGap gap ∧ line = Keyword.type.spelling ++ (gap ++ ident)

/-- White space behind the word of a type ends where the identifier starts. -/
theorem IsBareType.trimLeft_eq {ident : List Char} (h : IsBareType ident line) :
    ∃ behind, line = Keyword.type.spelling ++ behind ∧ trimLeft behind = ident := by
  obtain ⟨gap, hgap, rfl⟩ := h.spelled
  refine ⟨gap ++ ident, rfl, trimLeft_append hgap.2 fun c hc => ?_⟩
  exact isBlank_of_isWord (h.isWord c (List.mem_of_head? hc))

/-- A line has one identifier at most. -/
theorem IsBareType.unique {ident ident' : List Char} (h : IsBareType ident line)
    (h' : IsBareType ident' line) : ident = ident' := by
  obtain ⟨behind, hline, htrim⟩ := h.trimLeft_eq
  obtain ⟨behind', hline', htrim'⟩ := h'.trimLeft_eq
  rw [hline] at hline'
  rw [← htrim, ← htrim', List.append_cancel_left hline']

/-- Behind the name on a bare line stands nothing. -/
theorem IsBareType.rest_eq_nil {ident : List Char} (h : IsBareType ident line)
    (hname : nameAfter? .type line = some (name, rest)) : rest = [] := by
  obtain ⟨behind, hline, htrim⟩ := h.trimLeft_eq
  obtain ⟨gap, hgap, hisName, hhead, hline'⟩ := nameAfter?_eq_some_iff.mp hname
  have hident : ident = name ++ rest := by
    rw [hline] at hline'
    rw [← htrim, List.append_cancel_left hline',
      trimLeft_append hgap.2 (hisName.head?_not_isBlank rest)]
  rcases rest with _ | ⟨c, rest⟩
  · rfl
  · have hc := h.isWord c (by simp [hident])
    rw [hhead c rfl] at hc
    cases hc

/-- A bare line starts with the word of a type. -/
theorem not_isBareType_of_read? {form : Form} (hread : (form.read? line).isSome)
    (hkeyword : form.keyword ≠ .type) (ident : List Char) : ¬ IsBareType ident line := by
  intro hbare
  obtain ⟨behind, rfl, -⟩ := hbare.trimLeft_eq
  rw [Form.read?_eq_none (after?_spelling_append hkeyword behind)] at hread
  cases hread

/-- On a bare line the identifier without its last letter is no word. -/
theorem IsBareType.not_standsAsWord {last : Char} (h : IsBareType (name ++ [last]) line)
    (hname : IsName isCapital name) : ¬ StandsAsWord name line := by
  obtain ⟨gap, hgap, rfl⟩ := h.spelled
  obtain ⟨c, more, rfl, hc, -⟩ := hname
  rw [← List.append_assoc]
  refine not_standsAsWord_append (List.cons_ne_nil c more) (List.cons_ne_nil last []) ?_ h.isWord
  intro d hd hhead
  obtain rfl : c = d := by simpa using hhead
  rcases List.mem_append.mp hd with hd | hd
  · have htype : Keyword.type.spelling.all (!isCapital ·) := rfl
    have hnot := List.all_eq_true.mp htype c hd
    rw [hc] at hnot
    cases hnot
  · have hblank := hgap.2 c hd
    rw [isBlank_of_isWord (isWord_of_isCapital hc)] at hblank
    cases hblank

/-! ### Names of headings -/

/-- The name that a heading declares; a group has none of its own. -/
def Heading.name? : Heading → Option (List Char)
  | .interface name | .struct name | .type name _ _ | .method _ name | .function name
  | .single _ name _ => some name
  | .group _ => none

theorem Heading.name?_eq_none_iff {h : Heading} : h.name? = none ↔ ∃ kind, h = .group kind := by
  cases h <;> simp [Heading.name?]

/-- A name behind a keyword stands as a word. -/
theorem standsAsWord_of_nameAfter? {keyword : Keyword}
    (h : nameAfter? keyword line = some (name, rest)) :
    IsName isCapital name ∧ StandsAsWord name line := by
  obtain ⟨gap, hgap, hname, hhead, rfl⟩ := nameAfter?_eq_some_iff.mp h
  exact ⟨hname, standsAsWord_append _ hgap.1 (fun c hc => isWord_of_isBlank (hgap.2 c hc)) hhead⟩

/-- The name of a method stands as a word behind its receiver. -/
theorem standsAsWord_of_method? {receiver : List Char}
    (h : method? line = some (.method receiver name, rest)) :
    IsName isCapital name ∧ StandsAsWord name line := by
  simp only [method?, Option.bind_eq_bind, Option.bind_eq_some_iff, Option.ite_none_left_eq_some,
    Option.some.injEq, Prod.mk.injEq, Prod.exists, Heading.method.injEq] at h
  obtain ⟨behind, hfunc, inner, hinner, -, on, hclose, found, behindName, hread, _, -,
    ⟨-, hfound⟩, -⟩ := h
  rw [hfound] at hread
  obtain ⟨hname, hon, hhead⟩ := nameFrom?_eq_some_iff.mp hread
  obtain ⟨blanks, hblanks, honBlanks, -⟩ := exists_append_trimLeft on
  refine ⟨hname, ?_⟩
  -- the line up to the parenthesis that closes the receiver
  obtain ⟨front, hfront⟩ : ∃ front, front ++ ')' :: on = line := by
    have hsuffix : inner.dropWhile (· != ')') <:+ line :=
      calc inner.dropWhile (· != ')')
          <:+ inner := List.dropWhile_suffix _
        _ <:+ trimLeft behind := isSuffix_of_after? hinner
        _ <:+ behind := isSuffix_trimLeft behind
        _ <:+ line := isSuffix_of_after? hfunc
    rwa [after?_eq_some_iff.mp hclose] at hsuffix
  have hline : line = front ++ ((')' :: blanks) ++ (name ++ behindName)) := by
    rw [← hfront, honBlanks, hon, List.cons_append]
  rw [hline]
  refine standsAsWord_append front (List.cons_ne_nil _ _) (fun c hc => ?_) hhead
  rcases List.mem_cons.mp hc with rfl | hc
  · decide
  · exact isWord_of_isBlank (hblanks c hc)

/-- The best reading keeps the name whole when something stands behind it. -/
theorem name_eq_of_typeReadings {found value behind : List Char} {equated : Bool}
    (hline : '\n' ∉ rest) (hrest : rest ≠ [])
    (hfound : (typeReadings name rest).findSome? TypeReading.heading? =
      some (.type found equated value, behind)) : found = name := by
  obtain ⟨whole, cut, hreadings, hself, hnames⟩ := exists_typeReadings_eq_append name rest
  have hselfRead : TypeReading.heading? ⟨name, false, rest⟩ = some (.type name false rest, []) :=
    TypeReading.heading?_of_not_mem hline hrest
  have hsome : (whole.findSome? TypeReading.heading?).isSome :=
    List.findSome?_isSome_iff.mpr ⟨_, hself, by rw [hselfRead]; rfl⟩
  rw [hreadings, List.findSome?_append, Option.or_of_isSome hsome] at hfound
  obtain ⟨reading, hmem, hheading⟩ := List.exists_of_findSome?_eq_some hfound
  rw [TypeReading.name_of_heading? hheading, hnames reading hmem]

/-- When nothing stands behind the name, the best reading takes its last letter for the value. -/
theorem eq_type_of_typeReadings_nil {h : Heading} {behind : List Char} (hline : '\n' ∉ name)
    (hfound : (typeReadings name []).findSome? TypeReading.heading? = some (h, behind)) :
    ∃ init last, name = init ++ [last] ∧ init ≠ [] ∧ h = .type init false [last] := by
  obtain rfl | ⟨init, last, rfl⟩ := List.eq_nil_or_concat' name
  · cases hfound
  refine ⟨init, last, rfl, ?_⟩
  rw [typeReadings_concat_nil] at hfound
  have hempty : TypeReading.heading? ⟨init ++ [last], false, []⟩ = none := rfl
  have hlast : TypeReading.heading? ⟨init, false, [last]⟩ = some (.type init false [last], []) :=
    TypeReading.heading?_of_not_mem (fun hmem => hline (List.mem_append_right _ hmem))
      (List.cons_ne_nil last [])
  by_cases hinit : init = []
  · simp only [List.findSome?_cons, hempty, if_pos hinit, List.findSome?_nil] at hfound
    cases hfound
  · simp only [List.findSome?_cons, hempty, if_neg hinit, hlast] at hfound
    obtain ⟨hheading, -⟩ := Prod.mk.inj (Option.some.inj hfound)
    exact ⟨hinit, hheading.symm⟩

/-- **Names of types**: a type heading has the whole name that stands on the line, unless nothing
stands behind it: then the last letter is the value. -/
theorem type?_eq_some {h : Heading} {behind : List Char} (hline : '\n' ∉ line)
    (hread : type? line = some (h, behind)) :
    ∃ name rest, nameAfter? .type line = some (name, rest) ∧
      (rest ≠ [] ∧ h.name? = some name ∨
        rest = [] ∧ ∃ init last, name = init ++ [last] ∧ init ≠ [] ∧
          h = .type init false [last]) := by
  obtain ⟨⟨name, rest⟩, hname, hbest⟩ := Option.bind_eq_some_iff.mp hread
  refine ⟨name, rest, hname, ?_⟩
  obtain ⟨gap, -, -, -, rfl⟩ := nameAfter?_eq_some_iff.mp hname
  obtain ⟨hlineName, hlineRest⟩ : '\n' ∉ name ∧ '\n' ∉ rest := by
    simp only [List.mem_append, not_or] at hline
    exact hline.2.2
  dsimp only at hbest
  split at hbest
  · rename_i found equated value end_ hfound
    rw [Option.ite_none_left_eq_some, Option.some.injEq] at hbest
    obtain ⟨rfl, -⟩ := Prod.mk.inj hbest.2
    by_cases hrest : rest = []
    · subst hrest
      exact .inr ⟨rfl, eq_type_of_typeReadings_nil hlineName hfound⟩
    · exact .inl ⟨hrest, congrArg some (name_eq_of_typeReadings hlineRest hrest hfound)⟩
  · cases hbest

/-- **The name of a heading** is exported and stands as a word on its line, and the line is not
bare; or the line is bare, and the name is its identifier without the last letter. -/
theorem Heading.name_on_line {h : Heading} (hline : '\n' ∉ line)
    (hread : Heading.ofLine? line = some h) (hname : h.name? = some name) :
    IsName isCapital name ∧
      (StandsAsWord name line ∧ (∀ ident, ¬ IsBareType ident line) ∨
        ∃ last, IsBareType (name ++ [last]) line ∧ h = .type name false [last]) := by
  obtain ⟨behind, hform⟩ := Heading.read?_of_ofLine? hread
  have hsome : (h.form.read? line).isSome := by rw [hform]; rfl
  -- a name behind the word of a type, with something behind it
  have hfollowed : ∀ rest, nameAfter? .type line = some (name, rest) → rest ≠ [] →
      IsName isCapital name ∧ StandsAsWord name line ∧ ∀ ident, ¬ IsBareType ident line := by
    intro rest hnamed hrest
    obtain ⟨hisName, hstands⟩ := standsAsWord_of_nameAfter? hnamed
    exact ⟨hisName, hstands, fun ident hbare => hrest (hbare.rest_eq_nil hnamed)⟩
  cases h with
  | interface found | struct found =>
    obtain rfl := Option.some.inj hname
    obtain ⟨r, hbody, hr⟩ := Option.map_eq_some_iff.mp hform
    obtain ⟨rest, on, hnamed, htrim, -⟩ := exists_of_body? hbody
    obtain ⟨hfound, -⟩ := Prod.mk.inj hr
    cases hfound
    obtain ⟨hisName, hword⟩ := hfollowed rest hnamed (by rintro rfl; cases htrim)
    exact ⟨hisName, .inl hword⟩
  | type found equated value =>
    obtain rfl := Option.some.inj hname
    obtain ⟨whole, rest, hnamed, hcase⟩ := type?_eq_some hline hform
    rcases hcase with ⟨hrest, hwhole⟩ | ⟨rfl, init, last, rfl, hinit, hheading⟩
    · obtain rfl := Option.some.inj hwhole
      obtain ⟨hisName, hword⟩ := hfollowed rest hnamed hrest
      exact ⟨hisName, .inl hword⟩
    · obtain ⟨rfl, -, -⟩ := Heading.type.inj hheading
      obtain ⟨gap, hgap, hisName, -, hspelled⟩ := nameAfter?_eq_some_iff.mp hnamed
      have hbare : IsBareType (found ++ [last]) line := by
        refine ⟨?_, hisName.isWord, gap, hgap, by rw [hspelled, List.append_nil]⟩
        have hpos := List.length_pos_iff.mpr hinit
        rw [List.length_append, List.length_singleton]
        omega
      exact ⟨hisName.of_append hinit, .inr ⟨last, hbare, hheading⟩⟩
  | method receiver found =>
    obtain rfl := Option.some.inj hname
    obtain ⟨hisName, hstands⟩ := standsAsWord_of_method? hform
    have hkeyword : Keyword.func ≠ .type := by decide
    exact ⟨hisName, .inl ⟨hstands, not_isBareType_of_read? hsome hkeyword⟩⟩
  | function found =>
    obtain rfl := Option.some.inj hname
    rw [Heading.form, Form.read?, function?_eq, Option.bind_eq_some_iff] at hform
    obtain ⟨r, hnamed, hr⟩ := hform
    obtain ⟨_, -, hheading⟩ := Option.map_eq_some_iff.mp hr
    obtain ⟨rfl⟩ := Heading.function.inj (Prod.mk.inj hheading).1
    obtain ⟨hisName, hstands⟩ := standsAsWord_of_nameAfter? hnamed
    have hkeyword : Keyword.func ≠ .type := by decide
    exact ⟨hisName, .inl ⟨hstands, not_isBareType_of_read? hsome hkeyword⟩⟩
  | single kind found value =>
    obtain rfl := Option.some.inj hname
    rw [Heading.form, Form.read?, single?_eq, Option.bind_eq_some_iff] at hform
    obtain ⟨r, hnamed, hr⟩ := hform
    obtain ⟨_, -, hheading⟩ := Option.map_eq_some_iff.mp hr
    obtain ⟨-, rfl, -⟩ := Heading.single.inj (Prod.mk.inj hheading).1
    obtain ⟨hisName, hstands⟩ := standsAsWord_of_nameAfter? hnamed
    have hkeyword : kind.keyword ≠ .type := by cases kind <;> decide
    exact ⟨hisName, .inl ⟨hstands, not_isBareType_of_read? hsome hkeyword⟩⟩
  | group kind => cases hname

/-! ### Names of entries -/

/-- Behind what is kept of a line stands nothing or a comment. -/
theorem exists_append_cutComment (line : Line) :
    ∃ comment, line = cutComment line ++ comment ∧ ∀ c ∈ comment.head?, c = '/' := by
  fun_induction cutComment line with
  | case1 rest => exact ⟨'/' :: '/' :: rest, rfl, fun c hc => (Option.some.inj hc).symm⟩
  | case2 c rest hslash ih =>
    obtain ⟨comment, hline, hhead⟩ := ih
    exact ⟨comment, by rw [List.cons_append, ← hline], hhead⟩
  | case3 => exact ⟨[], rfl, by simp⟩

/-- A line starts with its code, white space aside, and what stands behind the code does not go on
with a word. -/
theorem exists_trim_eq_codeOf_append (line : Line) (hcode : codeOf line ≠ []) :
    ∃ behind, trim line = codeOf line ++ behind ∧ ∀ c ∈ behind.head?, isWord c = false := by
  obtain ⟨comment, hline, hcomment⟩ := exists_append_cutComment line
  obtain ⟨left, right, hleft, hright, hcut⟩ := exists_append_trim isBlank (cutComment line)
  have hcode' : trimRightOf isBlank (trimLeftOf isBlank (cutComment line)) = codeOf line := rfl
  rw [hcode'] at hcut
  have hhead : ∀ c ∈ (codeOf line ++ (right ++ comment)).head?, isBlank c = false := by
    intro c hc
    rw [List.head?_append_of_ne_nil _ hcode] at hc
    exact isBlank_head_trim hc
  have hstart : trimLeft line = codeOf line ++ (right ++ comment) := by
    have hwhole : line = left ++ (codeOf line ++ (right ++ comment)) := by
      rw [← List.append_assoc, ← List.append_assoc, ← hcut, ← hline]
    exact (congrArg trimLeft hwhole).trans (trimLeft_append hleft hhead)
  have hlast : ∀ c ∈ (codeOf line).getLast?, isBlank c = false :=
    fun c hc => isBlank_getLast_trim hc
  refine ⟨trimRight (right ++ comment), ?_, fun c hc => ?_⟩
  · rw [trim, hstart, trimRight_append hlast]
  · -- what is left behind the code starts as the line goes on behind it
    obtain ⟨more, hmore⟩ := isPrefix_trimRight (right ++ comment)
    have hnext : c ∈ (right ++ comment).head? := by
      rw [← hmore, List.head?_append, Option.mem_def.mp hc, Option.some_or]
      rfl
    rcases right with _ | ⟨b, right⟩
    · rw [hcomment c hnext]
      decide
    · obtain rfl : b = c := Option.some.inj hnext
      exact isWord_of_isBlank (hright b List.mem_cons_self)

/-- **The name of an entry** stands as a word at the start of its line, and of its code. -/
theorem standsAsWord_of_entryOf? {entry : Entry} (hentry : entryOf? line = some entry)
    (hexported : isExported entry.name) :
    IsName isCapital entry.name ∧ entry.name <+: entry.text ∧
      StandsAsWord entry.name (trim line) ∧ ∀ ident, ¬ IsBareType ident (trim line) := by
  obtain ⟨⟨name, rest⟩, hread, rfl⟩ := Option.map_eq_some_iff.mp hentry
  obtain ⟨⟨c, more, rfl, hstart, hmore⟩, hcode, hhead⟩ := nameFrom?_eq_some_iff.mp hread
  have hcapital : isCapital c := by simpa [isExported] using hexported
  obtain ⟨behind, hline, hbehind⟩ :=
    exists_trim_eq_codeOf_append line (by rw [hcode]; exact List.cons_ne_nil _ _)
  rw [hcode, List.append_assoc] at hline
  refine ⟨⟨c, more, rfl, hcapital, hmore⟩, ⟨rest, hcode.symm⟩,
    ⟨[], rest ++ behind, hline, by simp, ?_⟩, fun ident hbare => ?_⟩
  · rcases rest with _ | ⟨d, rest⟩
    · exact hbehind
    · exact hhead
  · obtain ⟨_, htype, -⟩ := hbare.trimLeft_eq
    rw [hline] at htype
    obtain ⟨rfl, -⟩ := List.cons.inj htype
    exact absurd hcapital (by decide)

/-! ### Names of declarations -/

/-- What a named heading declares has its name and stands on its line, and the line is part of the
signature. -/
theorem Stop.of_name? {origin : Origin} {s : Stop} {d : Declaration}
    (hd : d ∈ s.declarations origin) (hname : s.heading.name? = some name) :
    d.name = String.ofList name ∧ d.lineNumber = s.above.length + 1 ∧
      trim s.line <+: d.signature.toList := by
  obtain ⟨above, heading, line, rest⟩ := s
  have hheader : trim line <+: signature origin.headerLimit (line :: rest) := by
    obtain ⟨more, hmore⟩ := exists_headerLines_eq_cons origin.headerLimit 0 line rest
    rw [signature, hmore, List.map_cons]
    rcases more.map trim with _ | ⟨next, later⟩
    · rw [List.intercalate_singleton]
    · rw [List.intercalate_cons_cons, List.append_assoc]
      exact List.prefix_append _ _
  cases heading with
  | group kind => cases hname
  | method receiver found | function found =>
    obtain rfl := Option.some.inj hname
    obtain rfl := List.mem_singleton.mp hd
    exact ⟨rfl, rfl, by simpa [Origin.declaration] using hheader⟩
  | interface found | struct found | type found equated value | single kind found value =>
    obtain rfl := Option.some.inj hname
    obtain rfl := List.mem_singleton.mp hd
    exact ⟨rfl, rfl, by simp [Origin.composite, Origin.declaration]⟩

/-- An entry stands on the line of its group that it was read from. -/
theorem exists_line_of_mem_groupEntries {block : List Line} {r : Entry × Nat}
    (hr : r ∈ groupEntries block) : ∃ line, block[r.2]? = some line ∧ entryOf? line = some r.1 := by
  obtain ⟨⟨line, i⟩, hline, hentry⟩ := List.mem_filterMap.mp hr
  obtain ⟨entry, hread, rfl⟩ := Option.map_eq_some_iff.mp hentry
  refine ⟨line, ?_, hread⟩
  obtain ⟨hle, hget⟩ := List.mk_mem_zipIdx_iff_le_and_getElem?_sub.mp hline
  rw [List.getElem?_dropLast, List.getElem?_tail, Nat.sub_add_cancel hle,
    Option.ite_none_right_eq_some] at hget
  exact hget.2

/-- How the name of a declaration stands on its line, which has no white space around it. The last
two facts say when it stands there as a word, and what it is when it does not. -/
structure NamedOn (d : Declaration) (line : Line) : Prop where
  isName : IsName isCapital d.name.toList
  isInfix_signature : d.name.toList <:+: d.signature.toList
  standsAsWord_iff : StandsAsWord d.name.toList line ↔ ∀ ident, ¬ IsBareType ident line
  of_isBareType : ∀ ident, IsBareType ident line → d.kind = .type ∧
    ∃ last, ident = d.name.toList ++ [last] ∧ d.literalValue = some (String.ofList [last])

/-- What a named heading declares is named on the line of the heading. -/
theorem Stop.namedOn_of_name? {origin : Origin} {s : Stop} {d : Declaration}
    (hline : '\n' ∉ s.line) (hheading : Heading.ofLine? (trim s.line) = some s.heading)
    (hd : d ∈ s.declarations origin) (hname : s.heading.name? = some name) :
    NamedOn d (trim s.line) := by
  obtain ⟨hdname, -, hsignature⟩ := Stop.of_name? hd hname
  have htrim : '\n' ∉ trim s.line := fun hmem => hline ((isInfix_trim s.line).subset hmem)
  obtain ⟨hisName, hword | ⟨last, hbare, htype⟩⟩ := Heading.name_on_line htrim hheading hname
  · obtain ⟨hstands, hnot⟩ := hword
    rw [← String.toList_ofList (l := name), ← hdname] at hisName hstands
    exact ⟨hisName, hstands.isInfix.trans hsignature.isInfix, iff_of_true hstands hnot,
      fun ident hbare => absurd hbare (hnot ident)⟩
  · have hnot := hbare.not_standsAsWord hisName
    have hinfix : name <:+: trim s.line := by
      obtain ⟨gap, -, hspelled⟩ := hbare.spelled
      exact ⟨Keyword.type.spelling ++ gap, [last], by rw [hspelled]; simp⟩
    have hletter : trim [last] = [last] := by
      have hblank := isBlank_of_isWord (hbare.isWord last (by simp))
      exact trim_eq_self (by simpa using hblank) (by simpa using hblank)
    have hvalue : d.kind = .type ∧ d.literalValue = some (String.ofList [last]) := by
      obtain ⟨above, heading, line, rest⟩ := s
      obtain rfl : heading = .type name false [last] := htype
      obtain rfl := List.mem_singleton.mp hd
      exact ⟨rfl, by rw [hletter]⟩
    have hdlist : d.name.toList = name := by rw [hdname, String.toList_ofList]
    rw [← hdlist] at hisName hnot hinfix hbare
    refine ⟨hisName, hinfix.trans hsignature.isInfix, ?_, fun ident hident => ?_⟩
    · exact iff_of_false hnot fun hall => hall _ hbare
    · exact ⟨hvalue.1, last, hident.unique hbare, hvalue.2⟩

/-- What a group declares is named on the lines of the group. -/
theorem Stop.exists_namedOn_of_group {origin : Origin} {s : Stop} {d : Declaration}
    (hd : d ∈ s.declarations origin) {kind : ValueKind} (hgroup : s.heading = .group kind) :
    ∃ (k : Nat) (line : Line), d.lineNumber = s.above.length + k + 1 ∧ s.block[k]? = some line ∧
      NamedOn d (trim line) := by
  rw [s.declarations_group origin hgroup] at hd
  obtain ⟨r, hr, rfl⟩ := List.mem_map.mp hd
  obtain ⟨hentry, hexported⟩ := List.mem_filter.mp hr
  obtain ⟨line, hline, hread⟩ := exists_line_of_mem_groupEntries hentry
  obtain ⟨hisName, hprefix, hstands, hnot⟩ := standsAsWord_of_entryOf? hread hexported
  refine ⟨r.2, line, ?_, hline, ?_, ?_, ?_, fun ident hbare => absurd hbare (hnot ident)⟩
  · simp only [Origin.grouped]
    omega
  · simpa [Origin.grouped, Origin.declaration] using hisName
  · simpa [Origin.grouped, Origin.declaration] using hprefix.isInfix
  · simpa [Origin.grouped, Origin.declaration] using iff_of_true hstands hnot

/-- **Names on their lines**: a declared name is a capital letter with word characters behind it, it
is part of the signature, and it stands as a word on the line of the declaration, unless the line is
bare: then it is the identifier on the line without its last letter, which is the value of the
type. -/
theorem scan_names_stand_as_words (origin : Origin) (text : List Char) {d : Declaration}
    (hd : d ∈ scan origin text) :
    ∃ (n : Nat) (line : Line), d.lineNumber = n + 1 ∧ (lines text)[n]? = some line ∧
      NamedOn d (trim line) := by
  obtain ⟨s, hs, hds⟩ := exists_stop_of_mem_scan hd
  have hdrop := Stop.drop_of_mem_stops hs
  rcases hname : s.heading.name? with _ | name
  · obtain ⟨kind, hgroup⟩ := Heading.name?_eq_none_iff.mp hname
    obtain ⟨k, line, hplace, hline, hnamed⟩ := Stop.exists_namedOn_of_group hds hgroup
    refine ⟨s.above.length + k, line, by omega, ?_, hnamed⟩
    have hk : k < s.block.length := (List.getElem?_eq_some_iff.mp hline).1
    rw [← List.getElem?_drop, hdrop, ← s.block_append_left, List.getElem?_append_left hk, hline]
  · obtain ⟨-, hplace, -⟩ := Stop.of_name? hds hname
    obtain ⟨-, -, hheading⟩ := Stop.whole_of_mem_stops hs
    have hget : (lines text)[s.above.length]? = some s.line := by
      rw [← List.head?_drop, hdrop, List.head?_cons]
    have hline := newline_not_mem_of_mem_lines (List.mem_of_getElem? hget)
    exact ⟨s.above.length, s.line, hplace, hget, Stop.namedOn_of_name? hline hheading hds hname⟩

/-- A group with a name that its comment repeats, and a bare line: the name is cut short. -/
theorem scan_names_stand_as_words_of_bare_type :
    let text := "const (\n\tA_1 = a // A_1\n)\ntype Foo".toList
    let d : Declaration :=
      { name := "Fo", kind := .type, sourceFile := "a.go", module := "root",
        signature := "type Foo", lineNumber := 4, literalValue := some "o" }
    d ∈ scan ⟨"a.go", "root", 12⟩ text ∧
      ∃ (n : Nat) (line : Line), d.lineNumber = n + 1 ∧ (lines text)[n]? = some line ∧
        NamedOn d (trim line) := by
  intro text d
  have hd : d ∈ scan ⟨"a.go", "root", 12⟩ text := by decide +kernel
  exact ⟨hd, scan_names_stand_as_words _ _ hd⟩

end GoIndex.Source
