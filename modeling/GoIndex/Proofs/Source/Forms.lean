import GoIndex.Proofs.Source.Block
import GoIndex.Proofs.Source.Reading
import GoIndex.Proofs.Text.Lines

/-!
# The forms of a heading exclude each other

A line without a line feed has one form at most (`Form.eq_of_read?`). So it does not matter in which
order the forms are tried: `scanBy` scans with any order, and as long as every form has its turn it
declares what `scan` declares (`scan_order_free`).

Forms that start with different words have no line in common. Of those that start with the same
word, all but one pair are told apart by the first character behind the white space that both pass
over, or by the word that they expect there. The pair that is left is a type heading and a heading
that opens a body. Every line of the second sort is a text that a type heading could start with, and
it is refused only because its best reading has a value that opens a body
(`type?_eq_none_of_body?`).
-/

namespace GoIndex.Source

open Text

variable {line : List Char}

/-! ### Forms with the same word -/

/-- Behind the type parameters of a body's heading stands the word of the body. -/
theorem exists_of_body? {keyword : Keyword} {r : List Char × List Char}
    (h : body? keyword line = some r) :
    ∃ rest on, typeName? line = some (r.1, rest) ∧
      trimLeft (skipTypeParameters rest) = keyword.spelling ++ on ∧
        (after? ['{'] (trimLeft on)).isSome := by
  simp only [body?, Option.bind_eq_bind, Option.bind_eq_some_iff, Prod.exists] at h
  obtain ⟨name, rest, hname, body, hbody, on, hon, back, hback, hr⟩ := h
  obtain rfl := Option.some.inj hr
  obtain ⟨gap, hgap, hskip, hhead⟩ := afterBlanks?_eq_some_iff.mp hbody
  refine ⟨rest, on, hname, ?_, by rw [hback]; rfl⟩
  rw [hskip, trimLeft_append hgap.2 hhead, after?_eq_some_iff.mp hon]

/-- No heading opens two bodies. -/
theorem keyword_eq_of_body? {keyword keyword' : Keyword} {r r' : List Char × List Char}
    (h : body? keyword line = some r) (h' : body? keyword' line = some r') :
    keyword = keyword' := by
  obtain ⟨rest, on, hname, htrim, -⟩ := exists_of_body? h
  obtain ⟨rest', on', hname', htrim', -⟩ := exists_of_body? h'
  obtain ⟨-, rfl⟩ := Prod.mk.inj (Option.some.inj (hname.symm.trans hname'))
  rw [htrim] at htrim'
  by_contra hne
  have hnone := after?_spelling_append hne on'
  rw [← htrim', after?_append] at hnone
  cases hnone

/-- **A heading that opens a body is no type heading**: what a type heading would read as the value
is the body. -/
theorem type?_eq_none_of_body? {keyword : Keyword} {r : List Char × List Char}
    (hline : '\n' ∉ line) (hkeyword : keyword ∈ [Keyword.struct, Keyword.interface])
    (h : body? keyword line = some r) : type? line = none := by
  obtain ⟨rest, on, hname, htrim, hbrace⟩ := exists_of_body? h
  have hhead : (trimLeft (skipTypeParameters rest)).head? ≠ some '=' := by
    rw [htrim]
    cases keyword <;> simp [Keyword.spelling]
  obtain ⟨others, hreadings⟩ := typeReadings_eq_cons r.1 hhead
  have hvalue : '\n' ∉ keyword.spelling ++ on := by
    intro hmem
    rw [← htrim] at hmem
    obtain ⟨gap, -, -, -, rfl⟩ := nameAfter?_eq_some_iff.mp hname
    have hrest := ((isSuffix_trimLeft _).trans (isSuffix_skipTypeParameters rest)).subset hmem
    exact hline (by simp [hrest])
  have hbest : TypeReading.heading? ⟨r.1, false, keyword.spelling ++ on⟩ =
      some (.type r.1 false (keyword.spelling ++ on), []) :=
    TypeReading.heading?_of_not_mem hvalue (by cases keyword <;> simp [Keyword.spelling])
  have hopens : opensBody (keyword.spelling ++ on) := by
    refine List.any_eq_true.mpr ⟨keyword, hkeyword, ?_⟩
    rw [after?_append, Option.bind_some]
    exact hbrace
  rw [type?, hname]
  simp only [Option.bind_eq_bind, Option.bind_some, hreadings, htrim, List.findSome?_cons, hbest,
    hopens, if_true]

/-- Behind a keyword and white space stands a name or a parenthesis, not both. -/
theorem paren_eq_none_of_nameAfter? {keyword : Keyword} (h : (nameAfter? keyword line).isSome) :
    ((after? keyword.spelling line).bind fun rest => after? ['('] (trimLeft rest)) = none := by
  obtain ⟨⟨name, rest⟩, hread⟩ := Option.isSome_iff_exists.mp h
  obtain ⟨gap, hgap, hname, -, rfl⟩ := nameAfter?_eq_some_iff.mp hread
  have htrim : trimLeft (gap ++ (name ++ rest)) = name ++ rest :=
    trimLeft_append hgap.2 (hname.head?_not_isBlank rest)
  obtain ⟨c, more, rfl, hc, -⟩ := hname
  have hparen : '(' ≠ c := by
    rintro rfl
    exact absurd hc (by decide)
  rw [after?_append, Option.bind_some, htrim, List.cons_append, after?, if_neg hparen]

theorem method?_eq_none_of_function? (h : (function? line).isSome) : method? line = none := by
  have hname : (nameAfter? .func line).isSome := by
    rw [function?_eq] at h
    exact Option.isSome_of_isSome_bind h
  have hparen := paren_eq_none_of_nameAfter? hname
  simp only [method?, Option.bind_eq_bind, ← Option.bind_assoc, hparen, Option.bind_none]

theorem group?_eq_none_of_single? {kind : ValueKind} (h : (single? kind line).isSome) :
    group? kind line = none := by
  have hname : (nameAfter? kind.keyword line).isSome := by
    rw [single?_eq] at h
    exact Option.isSome_of_isSome_bind h
  have hparen := paren_eq_none_of_nameAfter? hname
  simp only [group?, Option.bind_eq_bind, ← Option.bind_assoc, hparen, Option.bind_none]

/-! ### Any two forms -/

/-- The pairs of forms that start with the same word, in the order in which they are tried. -/
def Form.rivals : List (Form × Form) :=
  [(.interface, .struct), (.interface, .type), (.struct, .type), (.method, .function),
    (.group .const, .single .const), (.group .var, .single .var)]

theorem Form.mem_rivals_of_keyword_eq {f g : Form} (hkeyword : f.keyword = g.keyword)
    (hne : f ≠ g) : (f, g) ∈ Form.rivals ∨ (g, f) ∈ Form.rivals := by
  have hall : ∀ f ∈ Form.all, ∀ g ∈ Form.all, f.keyword = g.keyword → f ≠ g →
      (f, g) ∈ Form.rivals ∨ (g, f) ∈ Form.rivals := by
    decide
  exact hall f f.mem_all g g.mem_all hkeyword hne

/-- Rivals read no line in common. -/
theorem Form.read?_eq_none_of_mem_rivals {f g : Form} (hline : '\n' ∉ line)
    (hrivals : (f, g) ∈ Form.rivals) (hg : (g.read? line).isSome) : f.read? line = none := by
  by_contra hf
  obtain ⟨r, hr⟩ := Option.ne_none_iff_exists'.mp hf
  obtain ⟨q, hq⟩ := Option.isSome_iff_exists.mp hg
  simp only [Form.rivals, List.mem_cons, Prod.mk.injEq, List.not_mem_nil, or_false] at hrivals
  obtain ⟨rfl, rfl⟩ | ⟨rfl, rfl⟩ | ⟨rfl, rfl⟩ | ⟨rfl, rfl⟩ | ⟨rfl, rfl⟩ | ⟨rfl, rfl⟩ := hrivals
  · obtain ⟨_, hbody, -⟩ := Option.map_eq_some_iff.mp hr
    obtain ⟨_, hbody', -⟩ := Option.map_eq_some_iff.mp hq
    exact nomatch keyword_eq_of_body? hbody hbody'
  · obtain ⟨_, hbody, -⟩ := Option.map_eq_some_iff.mp hr
    exact nomatch (type?_eq_none_of_body? hline (by decide) hbody).symm.trans hq
  · obtain ⟨_, hbody, -⟩ := Option.map_eq_some_iff.mp hr
    exact nomatch (type?_eq_none_of_body? hline (by decide) hbody).symm.trans hq
  · exact hf (method?_eq_none_of_function? hg)
  · exact hf (group?_eq_none_of_single? hg)
  · exact hf (group?_eq_none_of_single? hg)

/-- A line of a form starts with the word of the form. -/
theorem Form.exists_append_of_read? {form : Form} (h : (form.read? line).isSome) :
    ∃ rest, line = form.keyword.spelling ++ rest := by
  have hsome : after? form.keyword.spelling line ≠ none := by
    intro hnone
    rw [Form.read?_eq_none hnone] at h
    cases h
  obtain ⟨rest, hrest⟩ := Option.ne_none_iff_exists'.mp hsome
  exact ⟨rest, after?_eq_some_iff.mp hrest⟩

/-- **One form**: a line without a line feed reads in one form at most. -/
theorem Form.eq_of_read? {f g : Form} (hline : '\n' ∉ line) (hf : (f.read? line).isSome)
    (hg : (g.read? line).isSome) : f = g := by
  by_contra hne
  have hkeyword : f.keyword = g.keyword := by
    by_contra hother
    obtain ⟨rest, rfl⟩ := Form.exists_append_of_read? hg
    rw [Form.read?_eq_none (after?_spelling_append hother rest)] at hf
    cases hf
  rcases Form.mem_rivals_of_keyword_eq hkeyword hne with hrivals | hrivals
  · rw [Form.read?_eq_none_of_mem_rivals hline hrivals hg] at hf
    cases hf
  · rw [Form.read?_eq_none_of_mem_rivals hline hrivals hf] at hg
    cases hg

/-! ### The order of the forms -/

/-- The heading that a line is when the forms are tried in an order of their own. -/
def Heading.ofLineBy? (order : List Form) (line : List Char) : Option Heading :=
  order.findSome? fun form => (form.read? line).map (·.1)

/-- The scan that tries the forms in an order of their own, in all else like `scanLines`. -/
def scanLinesBy (order : List Form) (origin : Origin) (above : List Line) :
    List Line → List Declaration
  | [] => []
  | line :: rest =>
    match Heading.ofLineBy? order (trim line) with
    | none => scanLinesBy order origin (line :: above) rest
    | some h =>
      h.declarations origin above line rest ++
        scanLinesBy order origin ((h.extent (line :: rest)).1.reverse ++ above)
          (h.extent (line :: rest)).2
termination_by lines => lines.length
decreasing_by
  · exact Nat.lt_succ_self rest.length
  · exact h.length_extent_lt line rest

/-- The declarations in a text when the forms are tried in an order of their own. -/
def scanBy (order : List Form) (origin : Origin) (text : List Char) : List Declaration :=
  scanLinesBy order origin [] (lines text)

/-- A line is the heading that its form reads, whenever the form has its turn. -/
theorem Heading.ofLineBy?_eq_some_iff {order : List Form} (hline : '\n' ∉ line)
    (horder : ∀ form, form ∈ order) {h : Heading} :
    Heading.ofLineBy? order line = some h ↔
      ∃ form : Form, (form.read? line).map (·.1) = some h := by
  constructor
  · intro hfound
    obtain ⟨form, -, hread⟩ := List.exists_of_findSome?_eq_some hfound
    exact ⟨form, hread⟩
  · rintro ⟨form, hread⟩
    have hsome : (Heading.ofLineBy? order line).isSome :=
      List.findSome?_isSome_iff.mpr ⟨form, horder form, by rw [hread]; rfl⟩
    obtain ⟨found, hfound⟩ := Option.isSome_iff_exists.mp hsome
    obtain ⟨other, -, hother⟩ := List.exists_of_findSome?_eq_some hfound
    -- whatever form was found first is the form that reads the line
    obtain rfl : other = form := by
      refine Form.eq_of_read? hline ?_ ?_
      · rw [← Option.isSome_map (f := (·.1)), hother]
        rfl
      · rw [← Option.isSome_map (f := (·.1)), hread]
        rfl
    rw [hfound, ← hother, hread]

/-- A line is the heading that any of its forms reads. -/
theorem Heading.ofLine?_of_read? {form : Form} {h : Heading} {rest : List Char}
    (hline : '\n' ∉ line) (hread : form.read? line = some (h, rest)) :
    Heading.ofLine? line = some h :=
  (Heading.ofLineBy?_eq_some_iff hline Form.mem_all).mpr ⟨form, by rw [hread]; rfl⟩

theorem Heading.ofLineBy?_eq_ofLine? {order : List Form} (hline : '\n' ∉ line)
    (horder : ∀ form, form ∈ order) : Heading.ofLineBy? order line = Heading.ofLine? line := by
  refine Option.ext fun h => ?_
  rw [show Heading.ofLine? line = Heading.ofLineBy? Form.all line from rfl,
    Heading.ofLineBy?_eq_some_iff hline horder, Heading.ofLineBy?_eq_some_iff hline Form.mem_all]

theorem scanLinesBy_eq_scanLines {order : List Form} (horder : ∀ form, form ∈ order)
    (origin : Origin) {above ls : List Line} (hls : ∀ l ∈ ls, '\n' ∉ l) :
    scanLinesBy order origin above ls = scanLines origin above ls := by
  have hheading : ∀ l : Line, '\n' ∉ l →
      Heading.ofLineBy? order (trim l) = Heading.ofLine? (trim l) := fun l hl =>
    Heading.ofLineBy?_eq_ofLine? (fun hmem => hl ((isInfix_trim l).subset hmem)) horder
  fun_induction scanLines origin above ls with
  | case1 => rw [scanLinesBy]
  | case2 above line rest hnone ih =>
    obtain ⟨hline, hrest⟩ := List.forall_mem_cons.mp hls
    rw [scanLinesBy, hheading line hline, hnone]
    exact ih hrest
  | case3 above line rest h hsome ih =>
    obtain ⟨hline, -⟩ := List.forall_mem_cons.mp hls
    rw [scanLinesBy, hheading line hline, hsome]
    have hleft : ∀ l ∈ (h.extent (line :: rest)).2, '\n' ∉ l := by
      intro l hl
      refine hls l ?_
      rw [← h.extent_append (line :: rest)]
      exact List.mem_append_right _ hl
    exact congrArg (h.declarations origin above line rest ++ ·) (ih hleft)

/-- **Forms exclude each other**: of the nine forms at most one reads a line without a line feed, so
a scan declares the same whatever the order in which the forms are tried. -/
theorem scan_order_free :
    (∀ line : List Char, '\n' ∉ line → ∀ f g : Form,
      (f.read? line).isSome → (g.read? line).isSome → f = g) ∧
    ∀ order : List Form, (∀ form, form ∈ order) → ∀ (origin : Origin) (text : List Char),
      scanBy order origin text = scan origin text := by
  refine ⟨fun line hline f g hf hg => Form.eq_of_read? hline hf hg,
    fun order horder origin text => ?_⟩
  rw [scanBy, scan]
  exact scanLinesBy_eq_scanLines horder origin fun l hl => newline_not_mem_of_mem_lines hl

/-- A line that only the form of a struct reads, and a text with such a line, an interface as a
value, a method and a group, scanned with the forms in reverse. -/
theorem scan_order_free_of_reverse :
    let line := "type A[S ~[]E, E any] struct \x7b".toList
    let text := ("type A[S ~[]E, E any] struct \x7b\n\x7d\ntype B chan interface\x7b\x7d\n" ++
      "func (b B) C(\nconst (\n\tD = 1\n)").toList
    (∀ form : Form, (form.read? line).isSome → form = .struct) ∧
      scanBy Form.all.reverse ⟨"a.go", "root", 12⟩ text = scan ⟨"a.go", "root", 12⟩ text ∧
        (scan ⟨"a.go", "root", 12⟩ text).map (fun d => (d.name, d.kind)) =
          [("A", .struct), ("B", .type), ("C", .method), ("D", .const)] :=
  ⟨fun form hform => scan_order_free.1 _ (by decide) form .struct hform (by decide +kernel),
    scan_order_free.2 _ (fun form => List.mem_reverse.mpr form.mem_all) _ _, by decide +kernel⟩

end GoIndex.Source
