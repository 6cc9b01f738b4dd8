import Mathlib.Data.List.Infix
import Mathlib.Data.List.TakeWhile
import GoIndex.Proofs.Text.Trim
import GoIndex.Source.Heading

/-!
# What a heading has on its line

A heading has one form, and the line reads as a heading of that form (`Heading.read?_of_ofLine?`).
So what stands on the line of a heading is said form by form: a heading that opens a body has an
opening brace (`brace_mem_of_body?`), and a group has nothing but its word and white space in front
of its parenthesis (`group?_eq_some_iff`). The other way round, the word that a line starts with
leaves only the forms that start with this word (`ofLine?_keyword`).

The pieces of a reading each leave the end of the text that they were given; `after?` is the one
that also says what it took.
-/

namespace GoIndex.Source

open Text

variable {text rest : List Char}

/-! ### Pieces -/

/-- Reading a start leaves exactly what follows it. -/
theorem after?_eq_some_iff {start : List Char} :
    after? start text = some rest ↔ text = start ++ rest := by
  fun_induction after? start text with
  | case1 text => simp [eq_comm]
  | case2 c start => simp
  | case3 start c text ih => simp [ih]
  | case4 c start d text hne => simp [Ne.symm hne]

@[simp]
theorem after?_append (start rest : List Char) : after? start (start ++ rest) = some rest :=
  after?_eq_some_iff.mpr rfl

theorem isSuffix_of_after? {start : List Char} (h : after? start text = some rest) :
    rest <:+ text :=
  ⟨start, (after?_eq_some_iff.mp h).symm⟩

theorem isSuffix_of_afterBlanks? (h : afterBlanks? text = some rest) : rest <:+ text := by
  cases text with
  | nil => cases h
  | cons c text =>
    rw [afterBlanks?, Option.ite_none_right_eq_some] at h
    obtain rfl := Option.some.inj h.2
    exact (isSuffix_trimLeft text).trans (List.suffix_cons c text)

theorem isSuffix_of_nameFrom? {start : Char → Bool} {name : List Char}
    (h : nameFrom? start text = some (name, rest)) : rest <:+ text := by
  cases text with
  | nil => cases h
  | cons c text =>
    rw [nameFrom?, Option.ite_none_right_eq_some] at h
    obtain ⟨-, rfl⟩ := Prod.mk.inj (Option.some.inj h.2)
    exact (List.dropWhile_suffix isWord).trans (List.suffix_cons c text)

theorem isSuffix_of_closeBracket? {nested : Bool} (h : closeBracket? nested text = some rest) :
    rest <:+ text := by
  fun_induction closeBracket? nested text with
  | case1 => cases h
  | case2 text ih => exact (ih h).trans (List.suffix_cons _ text)
  | case3 nested text hnested =>
    obtain rfl := Option.some.inj h
    exact List.suffix_cons _ text
  | case4 => cases h
  | case5 nested text hnested hclose ih => exact (ih h).trans (List.suffix_cons _ text)
  | case6 nested c text hclose hopen ih => exact (ih h).trans (List.suffix_cons c text)

theorem isSuffix_skipTypeParameters (text : List Char) : skipTypeParameters text <:+ text := by
  rw [skipTypeParameters, afterTypeParameters?.eq_def]
  split
  · rename_i inner
    cases hread : closeBracket? false inner with
    | none => exact List.suffix_refl _
    | some rest => exact (isSuffix_of_closeBracket? hread).trans (List.suffix_cons _ inner)
  · exact List.suffix_refl text

/-- A text without a line feed is one line. -/
theorem lastLine?_of_not_mem {text : List Char} (h : '\n' ∉ text) :
    lastLine? text = some (text, []) := by
  have hall : ∀ c ∈ text, (c != '\n') = true := by
    intro c hc
    simpa using fun heq : c = '\n' => h (heq ▸ hc)
  rw [lastLine?, List.dropWhile_eq_nil_iff.mpr hall, List.takeWhile_eq_self_iff.mpr hall]
  rfl

/-! ### Forms -/

/-- The form of a heading. -/
def Heading.form : Heading → Form
  | .interface _ => .interface
  | .struct _ => .struct
  | .type .. => .type
  | .method .. => .method
  | .function _ => .function
  | .group kind => .group kind
  | .single kind .. => .single kind

/-- What is read in a form has that form. -/
theorem form_of_read? {form : Form} {line : List Char} {h : Heading}
    (hread : form.read? line = some (h, rest)) : h.form = form := by
  cases form with
  | interface | struct =>
    obtain ⟨r, -, hr⟩ := Option.map_eq_some_iff.mp hread
    obtain ⟨rfl, -⟩ := Prod.mk.inj hr
    rfl
  | type =>
    obtain ⟨⟨name, behind⟩, -, hr⟩ := Option.bind_eq_some_iff.mp hread
    dsimp only at hr
    split at hr
    · rw [Option.ite_none_left_eq_some] at hr
      obtain ⟨rfl, -⟩ := Prod.mk.inj (Option.some.inj hr.2)
      rfl
    · cases hr
  | method =>
    simp only [Form.read?, method?, Option.bind_eq_bind, Option.bind_eq_some_iff,
      Option.ite_none_left_eq_some, Option.some.injEq, Prod.mk.injEq] at hread
    obtain ⟨-, -, -, -, -, -, -, -, -, -, -, rfl, -⟩ := hread
    rfl
  | function =>
    simp only [Form.read?, function?, Option.bind_eq_bind, Option.bind_eq_some_iff,
      Option.some.injEq, Prod.mk.injEq] at hread
    obtain ⟨-, -, -, -, -, -, -, -, rfl, -⟩ := hread
    rfl
  | group kind =>
    simp only [Form.read?, group?, Option.bind_eq_bind, Option.bind_eq_some_iff,
      Option.some.injEq, Prod.mk.injEq] at hread
    obtain ⟨-, -, -, -, rfl, -⟩ := hread
    rfl
  | single kind =>
    simp only [Form.read?, single?, Option.bind_eq_bind, Option.bind_eq_some_iff,
      Option.some.injEq, Prod.mk.injEq] at hread
    obtain ⟨-, -, -, -, -, -, -, -, rfl, -⟩ := hread
    rfl

/-- **The form of a line**: a line that is a heading reads as one of its form. -/
theorem Heading.read?_of_ofLine? {line : List Char} {h : Heading}
    (hline : Heading.ofLine? line = some h) : ∃ rest, h.form.read? line = some (h, rest) := by
  obtain ⟨form, -, hread⟩ := List.exists_of_findSome?_eq_some hline
  obtain ⟨⟨found, rest⟩, hfound, rfl⟩ := Option.map_eq_some_iff.mp hread
  exact ⟨rest, by rw [form_of_read? hfound, hfound]⟩

/-! ### The word that a line starts with -/

/-- The word that every heading of a form starts with. -/
def Form.keyword : Form → Keyword
  | .interface | .struct | .type => .type
  | .method | .function => .func
  | .group kind | .single kind => kind.keyword

/-- A line that starts with another word is no heading of a form. -/
theorem Form.read?_eq_none {form : Form} {line : List Char}
    (h : after? form.keyword.spelling line = none) : form.read? line = none := by
  cases form with
  | interface | struct =>
    replace h : after? Keyword.type.spelling line = none := h
    simp [Form.read?, body?, typeName?, h]
  | type =>
    replace h : after? Keyword.type.spelling line = none := h
    simp [Form.read?, type?, typeName?, h]
  | method =>
    replace h : after? Keyword.func.spelling line = none := h
    simp [Form.read?, method?, h]
  | function =>
    replace h : after? Keyword.func.spelling line = none := h
    simp [Form.read?, function?, h]
  | group kind =>
    replace h : after? kind.keyword.spelling line = none := h
    simp [Form.read?, group?, h]
  | single kind =>
    replace h : after? kind.keyword.spelling line = none := h
    simp [Form.read?, single?, h]

/-- No word starts with another. -/
theorem after?_spelling_append {word other : Keyword} (hne : word ≠ other) (rest : List Char) :
    after? word.spelling (other.spelling ++ rest) = none := by
  cases word <;> cases other <;> first | rfl | exact absurd rfl hne

/-- A line that starts with the word of a value is a group, or else a single declaration. -/
theorem ofLine?_keyword (kind : ValueKind) (rest : List Char) :
    Heading.ofLine? (kind.keyword.spelling ++ rest) =
      ((group? kind (kind.keyword.spelling ++ rest)).or
        (single? kind (kind.keyword.spelling ++ rest))).map (·.1) := by
  have hother (form : Form) (hne : form.keyword ≠ kind.keyword) :
      form.read? (kind.keyword.spelling ++ rest) = none :=
    Form.read?_eq_none (after?_spelling_append hne rest)
  have hforms : Heading.ofLine? (kind.keyword.spelling ++ rest) =
      [Form.group kind, Form.single kind].findSome?
        fun form => (form.read? (kind.keyword.spelling ++ rest)).map (·.1) := by
    cases kind <;>
      simp (disch := decide) only [Heading.ofLine?, Form.all, List.findSome?_cons, hother,
        Option.map_none]
  rw [hforms, List.findSome?_cons, List.findSome?_cons, List.findSome?_nil, Form.read?, Form.read?]
  cases group? kind (kind.keyword.spelling ++ rest) with
  | some r => rfl
  | none => cases single? kind (kind.keyword.spelling ++ rest) <;> rfl

/-! ### What stands on the line -/

/-- A heading that opens a body has an opening brace on its line. -/
theorem brace_mem_of_body? {keyword : Keyword} {line name : List Char}
    (h : body? keyword line = some (name, rest)) : '{' ∈ line := by
  simp only [body?, typeName?, Option.bind_eq_bind, Option.bind_eq_some_iff, Option.some.injEq,
    Prod.exists] at h
  obtain ⟨_, behindName, ⟨behindType, htype, nameOn, hblanks, hname⟩, keywordOn, hblanks',
    behindKeyword, hkeyword, behindBrace, hbrace, -⟩ := h
  have hsuffix : trimLeft behindKeyword <:+ line :=
    calc trimLeft behindKeyword
        <:+ behindKeyword := isSuffix_trimLeft behindKeyword
      _ <:+ keywordOn := isSuffix_of_after? hkeyword
      _ <:+ skipTypeParameters behindName := isSuffix_of_afterBlanks? hblanks'
      _ <:+ behindName := isSuffix_skipTypeParameters behindName
      _ <:+ nameOn := isSuffix_of_nameFrom? hname
      _ <:+ behindType := isSuffix_of_afterBlanks? hblanks
      _ <:+ line := isSuffix_of_after? htype
  have hmem : '{' ∈ trimLeft behindKeyword := by
    rw [after?_eq_some_iff.mp hbrace]
    exact List.mem_cons_self
  exact hsuffix.subset hmem

/-- A group is its word, white space, and the parenthesis that opens it. -/
theorem group?_eq_some_iff {kind : ValueKind} {line : List Char} {h : Heading} :
    group? kind line = some (h, rest) ↔ h = .group kind ∧
      ∃ blanks, (∀ c ∈ blanks, isBlank c) ∧
        line = kind.keyword.spelling ++ (blanks ++ '(' :: rest) := by
  simp only [group?, Option.bind_eq_bind, Option.bind_eq_some_iff, after?_eq_some_iff,
    Option.some.injEq, Prod.mk.injEq]
  constructor
  · rintro ⟨behind, rfl, _, htrim, rfl, rfl⟩
    refine ⟨rfl, behind.takeWhile isBlank, List.all_eq_true.mp List.all_takeWhile, ?_⟩
    have hsplit := List.takeWhile_append_dropWhile (p := isBlank) (l := behind)
    rw [show behind.dropWhile isBlank = trimLeft behind from rfl, htrim] at hsplit
    exact congrArg _ hsplit.symm
  · rintro ⟨rfl, blanks, hblanks, rfl⟩
    refine ⟨_, rfl, rest, ?_, rfl, rfl⟩
    have hparen : isBlank '(' = false := by decide
    rw [trimLeft, trimLeftOf, List.dropWhile_append_of_pos hblanks, List.dropWhile_cons,
      if_neg (by simp [hparen])]
    rfl

end GoIndex.Source
