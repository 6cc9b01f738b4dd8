import GoIndex.Proofs.Source.Forms
import GoIndex.Proofs.Source.Group

/-!
# Layouts of a body

The body of an interface or a struct is written on one line, with semicolons between its items, or
spread over lines, one for each item. Both layouts declare the same (`scan_inline_eq_spread`).

They are cut up in different ways. The body on one line lies between the first opening and the last
closing brace, and a semicolon ends an item (`bodyItems_inline`). The spread body is what lies
between the first and the last line of the block, whatever stands there (`bodyItems_spread`), so it
matters where the block ends: since every item closes what it opens, this is at the last line. The
one difference that is left between the items is a carriage return at the end of a line, and no
member is read from it (`Heading.shape?_map_chopReturn`).

Reading a header passes over a line feed as over any white space, but a scan never sees a line feed.
So the header has to stand on one line (`scan_misses_header_on_two_lines`).
-/

namespace GoIndex

open Text

/-- What an interface or a struct declares: its name, its kind and its members. -/
def Declaration.shape (d : Declaration) : String × Kind × List Member :=
  (d.name, d.kind, d.members)

namespace Source

/-- The text of a body on one line, behind a header that ends in its opening brace. -/
def inlineText (header : List Char) (items : List Line) : List Char :=
  header ++ ([';'].intercalate items ++ ['}'])

/-- The text of a body with a line for each item, below a header that ends in its opening brace. -/
def spreadText (header : List Char) (items : List Line) : List Char :=
  unlines (header :: (items ++ [['}']]))

/-- What an interface or a struct with these items declares. Other headings have no items. -/
def Heading.shape? (items : List Line) : Heading → Option (String × Kind × List Member)
  | .interface name => some (String.ofList name, .interface, items.filterMap methodOf?)
  | .struct name => some (String.ofList name, .struct, items.filterMap fieldOf?)
  | _ => none

/-- The header of an interface or a struct that ends in its opening brace and has no other. -/
structure IsHeader (form : Form) (header : List Char) : Prop where
  form_eq : form = .interface ∨ form = .struct
  isSome_read : (form.read? header).isSome
  getLast_eq : header.getLast? = some '{'
  count_opening : header.count '{' = 1
  closing_not_mem : '}' ∉ header

/-- A text that can be an item in both layouts: it stands on one line, and it closes as many braces
as it opens. -/
structure IsItem (item : Line) : Prop where
  newline_not_mem : '\n' ∉ item
  semicolon_not_mem : ';' ∉ item
  count_eq : item.count '{' = item.count '}'

instance (form : Form) (header : List Char) : Decidable (IsHeader form header) :=
  decidable_of_iff ((form = .interface ∨ form = .struct) ∧ (form.read? header).isSome ∧
      header.getLast? = some '{' ∧ header.count '{' = 1 ∧ '}' ∉ header)
    ⟨fun ⟨a, b, c, d, e⟩ => ⟨a, b, c, d, e⟩, fun ⟨a, b, c, d, e⟩ => ⟨a, b, c, d, e⟩⟩

instance (item : Line) : Decidable (IsItem item) :=
  decidable_of_iff ('\n' ∉ item ∧ ';' ∉ item ∧ item.count '{' = item.count '}')
    ⟨fun ⟨a, b, c⟩ => ⟨a, b, c⟩, fun ⟨a, b, c⟩ => ⟨a, b, c⟩⟩

variable {form : Form} {header : List Char} {h : Heading} {items : List Line}

/-! ### Headers -/

/-- In front of the brace that ends a header there is no other. -/
theorem IsHeader.exists_append (hheader : IsHeader form header) :
    ∃ front, header = front ++ ['{'] ∧ '{' ∉ front := by
  obtain ⟨front, rfl⟩ := List.getLast?_eq_some_iff.mp hheader.getLast_eq
  have hcount := hheader.count_opening
  rw [List.count_append, List.count_singleton_self] at hcount
  exact ⟨front, rfl, List.count_eq_zero.mp (by omega)⟩

/-- What is written behind a header that opens a body is part of the body. -/
theorem Form.read?_append {form : Form} (hform : form = .interface ∨ form = .struct)
    {line rest : List Char} (hread : form.read? line = some (h, rest)) (more : List Char) :
    form.read? (line ++ more) = some (h, rest ++ more) := by
  rcases hform with rfl | rfl <;>
  · obtain ⟨⟨name, on⟩, hbody, hr⟩ := Option.map_eq_some_iff.mp hread
    obtain ⟨rfl, rfl⟩ := Prod.mk.inj hr
    rw [Form.read?, body?_append hbody more, Option.map_some]

/-- **Headers**: a header reads as a heading that opens a block of braces, and this is the heading
of every line that starts with the header. -/
theorem IsHeader.exists_heading (hheader : IsHeader form header) (hline : '\n' ∉ header) :
    ∃ h rest, form.read? header = some (h, rest) ∧ h.delimiters? = some .braces ∧
      ∀ more, '\n' ∉ more → (∀ c ∈ (header ++ more).getLast?, isBlank c = false) →
        Heading.ofLine? (trim (header ++ more)) = some h := by
  obtain ⟨⟨h, rest⟩, hread⟩ := Option.isSome_iff_exists.mp hheader.isSome_read
  refine ⟨h, rest, hread, ?_, fun more hmore hlast => ?_⟩
  · rcases hheader.form_eq with rfl | rfl <;>
    · obtain ⟨r, -, hr⟩ := Option.map_eq_some_iff.mp hread
      obtain ⟨rfl, -⟩ := Prod.mk.inj hr
      rfl
  · have htrim : trim (header ++ more) = header ++ more := by
      refine trim_eq_self ?_ hlast
      obtain ⟨on, hon⟩ := Form.exists_append_of_read? hheader.isSome_read
      rw [hon, List.append_assoc]
      exact form.keyword.head?_not_isBlank _
    have hread' : form.read? (header ++ more) = some (h, rest ++ more) :=
      Form.read?_append hheader.form_eq hread more
    rw [htrim]
    refine Heading.ofLine?_of_read? (fun hmem => ?_) hread'
    rcases List.mem_append.mp hmem with hmem | hmem
    · exact hline hmem
    · exact hmore hmem

/-! ### Items -/

/-- The body on one line lies between the first opening brace and the last closing one. -/
theorem inlineBody?_append {front : List Char} (hfront : '{' ∉ front) (body : List Char) :
    inlineBody? (front ++ '{' :: (body ++ ['}'])) = some body := by
  have hskip : (front ++ '{' :: (body ++ ['}'])).dropWhile (· != '{') = '{' :: (body ++ ['}']) := by
    rw [List.dropWhile_append_of_pos, List.dropWhile_cons, if_neg (by decide)]
    intro c hc
    simpa using fun heq : c = '{' => hfront (heq ▸ hc)
  rw [inlineBody?, hskip]
  simp

/-- Semicolons separate the items of a body on one line. -/
theorem bodyItems_inline (hheader : IsHeader form header) (hne : items ≠ [])
    (hitems : ∀ item ∈ items, ';' ∉ item) : bodyItems [inlineText header items] = items := by
  obtain ⟨front, rfl, hfront⟩ := hheader.exists_append
  rw [inlineText, List.append_assoc, List.singleton_append, bodyItems, inlineBody?_append hfront,
    Option.elim_some, List.splitOn_intercalate ';' hitems hne]

/-- The items of a spread body lie between its first and its last line. -/
theorem bodyItems_spread (first last : Line) (items : List Line) :
    bodyItems (first :: (items ++ [last])) = items := by
  cases items with
  | nil => rfl
  | cons item items =>
    rw [List.cons_append, bodyItems, List.tail_cons, ← List.cons_append, List.dropLast_concat]
    simp

/-! ### Members -/

theorem fieldOf?_chopReturn (line : Line) : fieldOf? (chopReturn line) = fieldOf? line := by
  rw [fieldOf?, fieldOf?, codeOf_chopReturn]

/-- No member is read from a carriage return at the end of an item. -/
theorem Heading.shape?_map_chopReturn (h : Heading) (items : List Line) :
    h.shape? (items.map chopReturn) = h.shape? items := by
  have hmethod : methodOf? ∘ chopReturn = methodOf? := by
    funext item
    rw [Function.comp_apply, methodOf?, methodOf?, trim_chopReturn]
  have hfield : fieldOf? ∘ chopReturn = fieldOf? := funext fieldOf?_chopReturn
  cases h with
  | interface name => rw [shape?, List.filterMap_map, hmethod, shape?]
  | struct name => rw [shape?, List.filterMap_map, hfield, shape?]
  | _ => rfl

/-- A heading that opens a block of braces declares something, whatever the items. -/
theorem Heading.exists_shape? (hbraces : h.delimiters? = some .braces) (items : List Line) :
    ∃ shape, h.shape? items = some shape := by
  cases h with
  | interface name | struct name => exact ⟨_, rfl⟩
  | group kind => exact absurd hbraces (by simp [delimiters?, Delimiters.parens, Delimiters.braces])
  | _ => cases hbraces

/-- What a heading declares are the items of its block. -/
theorem Heading.map_shape_declarations (origin : Origin) (above : List Line) {line : Line}
    {rest : List Line} {shape : String × Kind × List Member}
    (hshape : h.shape? (bodyItems (h.extent (line :: rest)).1) = some shape) :
    (h.declarations origin above line rest).map Declaration.shape = [shape] := by
  cases h with
  | interface name | struct name =>
    obtain rfl := Option.some.inj hshape
    rfl
  | _ => cases hshape

/-! ### Both layouts -/

/-- What a body on one line declares. -/
theorem map_shape_scan_inlineText (origin : Origin) {shape : String × Kind × List Member}
    (hheader : IsHeader form header) (hline : '\n' ∉ inlineText header items) (hne : items ≠ [])
    (hitems : ∀ item ∈ items, IsItem item)
    (hheading : Heading.ofLine? (trim (inlineText header items)) = some h)
    (hshape : h.shape? items = some shape) :
    (scan origin (inlineText header items)).map Declaration.shape = [shape] := by
  rw [scan_eq_declarations origin (lines_of_newline_not_mem hline) hheading
    (h.extent_singleton _)]
  refine Heading.map_shape_declarations origin [] ?_
  rw [h.extent_singleton, bodyItems_inline hheader hne fun item hitem =>
    (hitems item hitem).semicolon_not_mem, hshape]

/-- The block of a spread body is all of its text, so a scan gives what its heading declares. -/
theorem scan_spreadText (origin : Origin) (hheader : IsHeader form header) (hline : '\n' ∉ header)
    (hnewline : ∀ item ∈ items, '\n' ∉ item)
    (hcount : ∀ item ∈ items, item.count '{' = item.count '}')
    (hheading : Heading.ofLine? (trim header) = some h) (hbraces : h.delimiters? = some .braces) :
    (h.extent (header :: (items.map chopReturn ++ [['}']]))).1 =
        header :: (items.map chopReturn ++ [['}']]) ∧
      scan origin (spreadText header items) =
        h.declarations origin [] header (items.map chopReturn ++ [['}']]) := by
  have hlines : lines (spreadText header items) =
      header :: (items.map chopReturn ++ [['}']]) := by
    refine lines_unlines_enclosed hline ?_ hnewline (by decide)
    rw [hheader.getLast_eq]
    decide
  have hextent : h.extent (header :: (items.map chopReturn ++ [['}']])) =
      (header :: (items.map chopReturn ++ [['}']]), []) := by
    rw [h.extent_eq, hbraces]
    refine takeBlock_enclosed (by decide) ?_ fun line hmem => ?_
    · rw [hheader.count_opening, List.count_eq_zero.mpr hheader.closing_not_mem]
    · obtain ⟨item, hitem, rfl⟩ := List.mem_map.mp hmem
      rw [count_chopReturn item (by decide), count_chopReturn item (by decide),
        hcount item hitem]
  exact ⟨by rw [hextent], scan_eq_declarations origin hlines hheading hextent⟩

/-- What a spread body declares. -/
theorem map_shape_scan_spreadText (origin : Origin) {shape : String × Kind × List Member}
    (hheader : IsHeader form header) (hline : '\n' ∉ header)
    (hitems : ∀ item ∈ items, IsItem item) (hheading : Heading.ofLine? (trim header) = some h)
    (hbraces : h.delimiters? = some .braces) (hshape : h.shape? items = some shape) :
    (scan origin (spreadText header items)).map Declaration.shape = [shape] := by
  obtain ⟨hblock, hscan⟩ := scan_spreadText origin hheader hline
    (fun item hitem => (hitems item hitem).newline_not_mem)
    (fun item hitem => (hitems item hitem).count_eq) hheading hbraces
  rw [hscan]
  refine Heading.map_shape_declarations origin [] ?_
  rw [hblock, bodyItems_spread, h.shape?_map_chopReturn, hshape]

/-- **Layouts**: a body on one line and the same body spread over lines each declare one thing, and
it is the same one: an interface or a struct with the name of the header and the members of the
items. -/
theorem scan_inline_eq_spread (origin : Origin) (form : Form) (header : List Char)
    (items : List Line) (hheader : IsHeader form header) (hline : '\n' ∉ header)
    (hne : items ≠ []) (hitems : ∀ item ∈ items, IsItem item) :
    ∃ h rest shape, form.read? header = some (h, rest) ∧ h.shape? items = some shape ∧
      (scan origin (inlineText header items)).map Declaration.shape = [shape] ∧
      (scan origin (spreadText header items)).map Declaration.shape = [shape] := by
  obtain ⟨h, rest, hread, hbraces, hheading⟩ := hheader.exists_heading hline
  obtain ⟨shape, hshape⟩ := h.exists_shape? hbraces items
  have hbody : '\n' ∉ [';'].intercalate items ++ ['}'] := by
    intro hmem
    rcases List.mem_append.mp hmem with hmem | hmem
    · rcases mem_intercalate_singleton hmem with hsep | hmem
      · exact absurd hsep (by decide)
      · obtain ⟨item, hitem, hmem⟩ := List.mem_flatten.mp hmem
        exact (hitems item hitem).newline_not_mem hmem
    · exact absurd hmem (by decide)
  refine ⟨h, rest, shape, hread, hshape, ?_, ?_⟩
  · refine map_shape_scan_inlineText origin hheader (fun hmem => ?_) hne hitems ?_ hshape
    · rcases List.mem_append.mp hmem with hmem | hmem
      · exact hline hmem
      · exact hbody hmem
    · refine hheading _ hbody fun c hc => ?_
      rw [← List.append_assoc, List.getLast?_concat] at hc
      obtain rfl := Option.some.inj hc
      decide
  · refine map_shape_scan_spreadText origin hheader hline hitems ?_ hbraces hshape
    have hempty := hheading [] List.not_mem_nil
    rw [List.append_nil, hheader.getLast_eq] at hempty
    exact hempty fun c hc => by obtain rfl := Option.some.inj hc; decide

/-- Nested braces, a comment, nothing at all, an embedded type and a carriage return. -/
theorem scan_inline_eq_spread_of_five_items :
    let origin : Origin := ⟨"a.go", "root", 12⟩
    let header := "type Box[T any] struct \x7b".toList
    let items := [" A struct\x7b B int \x7d".toList, "// C int".toList, [], "\tIo.Reader".toList,
      "D map[T]T // last\r".toList]
    let members : List Member :=
      [{ name := "A", type := "struct\x7b B int \x7d" }, { name := "D", type := "map[T]T" }]
    IsHeader .struct header ∧ (∀ item ∈ items, IsItem item) ∧
      (scan origin (inlineText header items)).map Declaration.shape = [("Box", .struct, members)] ∧
      (scan origin (spreadText header items)).map Declaration.shape =
        [("Box", .struct, members)] := by
  intro origin header items members
  have hheader : IsHeader .struct header := by decide +kernel
  have hitems : ∀ item ∈ items, IsItem item := by decide +kernel
  obtain ⟨h, rest, shape, hread, hshape, hinline, hspread⟩ :=
    scan_inline_eq_spread origin .struct header items hheader (by decide) (by decide) hitems
  have hbox : Form.struct.read? header = some (.struct "Box".toList, []) := by decide +kernel
  have hmembers : (Heading.struct "Box".toList).shape? items = some ("Box", .struct, members) := by
    decide +kernel
  obtain ⟨rfl, -⟩ := Prod.mk.inj (Option.some.inj (hread.symm.trans hbox))
  obtain rfl := Option.some.inj (hshape.symm.trans hmembers)
  exact ⟨hheader, hitems, hinline, hspread⟩

/-- A header with a line feed for white space reads as one, but a scan finds it on no line. -/
theorem scan_misses_header_on_two_lines :
    let header := "type A\nstruct \x7b".toList
    IsHeader .struct header ∧ IsItem "X int".toList ∧
      scan ⟨"a.go", "root", 12⟩ (inlineText header ["X int".toList]) = [] ∧
      scan ⟨"a.go", "root", 12⟩ (spreadText header ["X int".toList]) = [] := by
  decide +kernel

end Source

end GoIndex
