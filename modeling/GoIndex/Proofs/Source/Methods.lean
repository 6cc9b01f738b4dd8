import GoIndex.Proofs.Source.Parameters

/-!
# The methods of an interface

Which methods the body of an interface declares is said line by line, without a reader: a line is a
method when it is a name and parameters in parentheses that nest (`DeclaresMethod`), and every other
line declares nothing (`DeclaresMethods`). The members that are read from an interface are exactly
these methods, in order (`interfaceMembers_eq_iff`).

How parentheses nest is said by a grammar (`Nested`). A count from left to right knows as much: it
never falls below zero and ends at zero exactly on the texts of the grammar (`nestsParens_iff`).
-/

namespace GoIndex.Source

open Text

variable {text : List Char} {depth : Nat}

/-! ### The grammar of nesting -/

/-- Texts in which parentheses nest. -/
inductive Nested : List Char → Prop
  | nil : Nested []
  | plain {c : Char} {text : List Char} (hopen : c ≠ '(') (hclose : c ≠ ')') (htext : Nested text) :
      Nested (c :: text)
  | parens {inner text : List Char} (hinner : Nested inner) (htext : Nested text) :
      Nested ('(' :: (inner ++ ')' :: text))

/-- Texts that close so many parentheses which were opened before. -/
inductive Closing : Nat → List Char → Prop
  | nested {text : List Char} (htext : Nested text) : Closing 0 text
  | close {depth : Nat} {inner text : List Char} (hinner : Nested inner)
      (htext : Closing depth text) : Closing (depth + 1) (inner ++ ')' :: text)

theorem Closing.plain {c : Char} (hopen : c ≠ '(') (hclose : c ≠ ')') (h : Closing depth text) :
    Closing depth (c :: text) := by
  cases h with
  | nested htext => exact .nested (.plain hopen hclose htext)
  | close hinner htext => exact .close (.plain hopen hclose hinner) htext

/-- A parenthesis that opens takes the first of those that close. -/
theorem Closing.openParen (h : Closing (depth + 1) text) : Closing depth ('(' :: text) := by
  cases h with
  | @close _ inner text hinner htext =>
    cases htext with
    | nested htext => exact .nested (.parens hinner htext)
    | @close _ next text hnext htext =>
      rw [← List.cons_append, ← List.cons_append, ← List.append_assoc]
      exact .close (.parens hinner hnext) htext

theorem closing_of_depthAfter? (h : depthAfter? depth text = some 0) : Closing depth text := by
  induction text generalizing depth with
  | nil =>
    obtain rfl := Option.some.inj h
    exact .nested .nil
  | cons c text ih =>
    rw [depthAfter?_cons, Option.bind_eq_some_iff] at h
    obtain ⟨next, hpush, hrest⟩ := h
    have hclosing := ih hrest
    rw [pushParen] at hpush
    split_ifs at hpush with hopen hclose hzero
    · obtain rfl := Option.some.inj hpush
      subst hopen
      exact hclosing.openParen
    · obtain rfl := Option.some.inj hpush
      obtain ⟨outer, rfl⟩ := Nat.exists_eq_succ_of_ne_zero hzero
      subst hclose
      exact .close .nil hclosing
    · obtain rfl := Option.some.inj hpush
      exact hclosing.plain hopen hclose

/-- Where parentheses nest, as many are open behind the text as before it. -/
theorem Nested.depthAfter?_eq (h : Nested text) (depth : Nat) :
    depthAfter? depth text = some depth := by
  induction h generalizing depth with
  | nil => rfl
  | plain hopen hclose _ ih =>
    rw [depthAfter?_cons, pushParen, if_neg hopen, if_neg hclose, Option.bind_some, ih]
  | parens _ _ hinner htext =>
    have hopen : pushParen depth '(' = some (depth + 1) := rfl
    have hclose : pushParen (depth + 1) ')' = some depth := rfl
    rw [depthAfter?_cons, hopen, Option.bind_some, depthAfter?_append, hinner, Option.bind_some,
      depthAfter?_cons, hclose, Option.bind_some, htext]

/-- **Counting and nesting agree.** -/
theorem nestsParens_iff : NestsParens text ↔ Nested text := by
  refine ⟨fun h => ?_, fun h => h.depthAfter?_eq 0⟩
  cases closing_of_depthAfter? h with
  | nested htext => exact htext

/-! ### Lines of a body -/

/-- A line that declares a method: no comment, but a name (an ASCII letter or an underscore, and
word characters behind it), white space or none, a list in parentheses, and a result, which may be
empty. The parameters are what stands between the commas of the list, without the pieces that hold
white space only. -/
inductive DeclaresMethod : Line → Member → Prop
  | intro {line : Line} {name pad list result : List Char} (hcomment : ¬ ['/', '/'] <+: trim line)
      (hname : IsName isNameStart name) (hpad : ∀ c ∈ pad, isBlank c) (hlist : Nested list)
      (hline : trim line = name ++ (pad ++ '(' :: (list ++ ')' :: result))) :
      DeclaresMethod line
        { name := String.ofList name
          type := String.ofList (trim result)
          parameters := (((list.splitOn ',').map trim).filter (· ≠ [])).map String.ofList
          returnType := String.ofList (trim result)
          isMethod := true }

/-- What the lines of a body declare, in order: a method each, or nothing where no method is
written. -/
inductive DeclaresMethods : List Line → List Member → Prop
  | nil : DeclaresMethods [] []
  | method {line : Line} {member : Member} {lines : List Line} {members : List Member}
      (hline : DeclaresMethod line member) (hlines : DeclaresMethods lines members) :
      DeclaresMethods (line :: lines) (member :: members)
  | other {line : Line} {lines : List Line} {members : List Member}
      (hline : ∀ member, ¬ DeclaresMethod line member) (hlines : DeclaresMethods lines members) :
      DeclaresMethods (line :: lines) members

/-- What is read from a line is what the line declares. -/
theorem methodOf?_eq_some_iff_declares {line : Line} {member : Member} :
    methodOf? line = some member ↔ DeclaresMethod line member := by
  have hpieces : ∀ list, parametersOf list = ((list.splitOn ',').map trim).filter (· ≠ []) := by
    intro list
    refine List.filter_congr fun piece _ => ?_
    rw [Bool.eq_iff_iff]
    simp
  constructor
  · intro h
    have hcomment : ¬ ['/', '/'] <+: trim line := by
      intro hslash
      rw [methodOf?, isLineComment, List.isPrefixOf_iff_prefix.mpr hslash] at h
      cases h
    obtain ⟨name, pad, list, result, hname, hpad, hnests, hline, rfl⟩ := methodOf?_eq_some_iff.mp h
    rw [method, hpieces]
    exact .intro hcomment hname hpad (nestsParens_iff.mp hnests) hline
  · rintro ⟨-, hname, hpad, hlist, hline⟩
    refine methodOf?_eq_some_iff.mpr ⟨_, _, _, _, hname, hpad, nestsParens_iff.mpr hlist, hline, ?_⟩
    rw [method, hpieces]

theorem declaresMethods_filterMap (lines : List Line) :
    DeclaresMethods lines (lines.filterMap methodOf?) := by
  induction lines with
  | nil => exact .nil
  | cons line lines ih =>
    rw [List.filterMap_cons]
    rcases hread : methodOf? line with _ | member
    · refine .other (fun member hdeclares => ?_) ih
      rw [methodOf?_eq_some_iff_declares.mpr hdeclares] at hread
      cases hread
    · exact .method (methodOf?_eq_some_iff_declares.mp hread) ih

/-- Lines declare one list of methods only. -/
theorem DeclaresMethods.eq_filterMap {lines : List Line} {members : List Member}
    (h : DeclaresMethods lines members) : lines.filterMap methodOf? = members := by
  induction h with
  | nil => rfl
  | method hline _ ih =>
    rw [List.filterMap_cons, methodOf?_eq_some_iff_declares.mpr hline, ih]
  | @other line _ _ hline _ ih =>
    have hread : methodOf? line = none :=
      Option.eq_none_iff_forall_ne_some.mpr fun member hread =>
        hline member (methodOf?_eq_some_iff_declares.mp hread)
    rw [List.filterMap_cons, hread, ih]

/-! ### Interfaces -/

/-- **The methods of an interface**: from an interface of two lines or more come the methods that
the lines between the first and the last declare, one for each such line and in order, and nothing
else. -/
theorem interfaceMembers_eq_iff {block : List Line} (hblock : 2 ≤ block.length)
    {members : List Member} :
    interfaceMembers block = members ↔ DeclaresMethods block.tail.dropLast members := by
  have hitems : bodyItems block = block.tail.dropLast := by
    obtain ⟨first, second, rest, rfl⟩ : ∃ first second rest, block = first :: second :: rest := by
      match block, hblock with
      | first :: second :: rest, _ => exact ⟨first, second, rest, rfl⟩
    rfl
  rw [interfaceMembers, hitems]
  constructor
  · rintro rfl
    exact declaresMethods_filterMap _
  · exact DeclaresMethods.eq_filterMap

/-- Among the lines of this interface are a call in a comment, an embedded type, and a call that is
never closed; the two methods nest parentheses in their parameters and in their result. -/
theorem interfaceMembers_eq_iff_of_two_methods :
    let block := ["type Store interface \x7b".toList, "\t// Put(k string)".toList,
      "\tGet(key string) (*Item, error)".toList, "".toList, "\tio.Closer".toList,
      "\tBroken(a (b) int".toList, "\tVisit (f func(d int) error, )".toList, "\x7d".toList]
    2 ≤ block.length ∧ DeclaresMethods block.tail.dropLast
      [{ name := "Get", type := "(*Item, error)", parameters := ["key string"],
         returnType := "(*Item, error)", isMethod := true },
       { name := "Visit", type := "", parameters := ["f func(d int) error"], isMethod := true }] :=
  ⟨by decide, (interfaceMembers_eq_iff (by decide)).mp (by decide +kernel)⟩

end GoIndex.Source
