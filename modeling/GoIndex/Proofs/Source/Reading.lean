import Mathlib.Data.List.TakeWhile
import GoIndex.Proofs.Source.Heading
import GoIndex.Proofs.Text.Word

/-!
# How a heading is spelled

Each piece of a reading takes something off the start of a text. Here each is measured against the
text that it takes: white space that goes on as long as it can (`afterBlanks?_eq_some_iff`), a name
with all of its letters (`nameFrom?_eq_some_iff`), a whole list of type parameters
(`afterTypeParameters?_eq_some_iff`). So a line reads as a heading exactly when it is put together
in one way, and this is stated for the headings that open a body (`body?_eq_some_iff`).

A type heading is the only one with several readings. `typeReadings_eq_cons` gives the best of them,
and `exists_typeReadings_eq_append` those that keep the name whole.
-/

namespace GoIndex.Source

open Text

variable {text rest name : List Char}

/-! ### White space -/

/-- White space of at least one character. -/
def IsGap (text : List Char) : Prop :=
  text ≠ [] ∧ ∀ c ∈ text, isBlank c

theorem IsGap.exists_cons {gap : List Char} (h : IsGap gap) :
    ∃ c more, gap = c :: more ∧ isBlank c := by
  obtain ⟨c, more, rfl⟩ := List.exists_cons_of_ne_nil h.1
  exact ⟨c, more, rfl, h.2 c List.mem_cons_self⟩

theorem IsGap.head?_not_isWord {gap : List Char} (h : IsGap gap) (rest : List Char) :
    ∀ c ∈ (gap ++ rest).head?, isWord c = false := by
  obtain ⟨b, more, rfl, hb⟩ := h.exists_cons
  exact forall_head?_cons (isWord_of_isBlank hb) (more ++ rest)

/-- A text that does not start with white space is what trimming leaves behind white space. -/
theorem trimLeft_append {blanks : List Char} (hblanks : ∀ c ∈ blanks, isBlank c)
    (hrest : ∀ c ∈ rest.head?, isBlank c = false) : trimLeft (blanks ++ rest) = rest :=
  dropWhile_append_of_forall hblanks hrest

/-- A text is white space and what trimming leaves. -/
theorem exists_append_trimLeft (text : List Char) :
    ∃ blanks, (∀ c ∈ blanks, isBlank c) ∧ text = blanks ++ trimLeft text ∧
      ∀ c ∈ (trimLeft text).head?, isBlank c = false := by
  refine ⟨text.takeWhile isBlank, fun c hc => List.mem_takeWhile_imp hc,
    List.takeWhile_append_dropWhile.symm, fun c hc => ?_⟩
  have hnot := List.head?_dropWhile_not isBlank text
  rw [show text.dropWhile isBlank = trimLeft text from rfl, Option.mem_def.mp hc] at hnot
  exact hnot

/-- Reading white space takes all of it. -/
theorem afterBlanks?_eq_some_iff :
    afterBlanks? text = some rest ↔
      ∃ gap, IsGap gap ∧ text = gap ++ rest ∧ ∀ c ∈ rest.head?, isBlank c = false := by
  constructor
  · intro h
    obtain ⟨c, more, rfl⟩ : ∃ c more, text = c :: more :=
      List.exists_cons_of_ne_nil (by rintro rfl; exact nomatch h)
    rw [afterBlanks?, Option.ite_none_right_eq_some] at h
    obtain ⟨hc, hrest⟩ := h
    obtain rfl := Option.some.inj hrest
    obtain ⟨blanks, hblanks, hmore, hhead⟩ := exists_append_trimLeft more
    refine ⟨c :: blanks, ⟨List.cons_ne_nil c blanks, ?_⟩, ?_, hhead⟩
    · exact List.forall_mem_cons.mpr ⟨hc, hblanks⟩
    · rw [List.cons_append, ← hmore]
  · rintro ⟨gap, hgap, rfl, hhead⟩
    obtain ⟨c, more, rfl, hc⟩ := hgap.exists_cons
    have htrim : trimLeft (more ++ rest) = rest :=
      trimLeft_append (fun d hd => hgap.2 d (List.mem_cons_of_mem c hd)) hhead
    rw [List.cons_append, afterBlanks?, if_pos hc, htrim]

/-! ### Names -/

/-- A name: a first letter of the class `start`, and word characters behind it. -/
def IsName (start : Char → Bool) (name : List Char) : Prop :=
  ∃ c more, name = c :: more ∧ start c ∧ ∀ d ∈ more, isWord d

theorem IsName.of_isCapital (h : IsName isCapital name) : IsName isNameStart name := by
  obtain ⟨c, more, rfl, hc, hmore⟩ := h
  exact ⟨c, more, rfl, isNameStart_of_isCapital hc, hmore⟩

theorem IsName.isWord_of_mem (h : IsName isNameStart name) : ∀ c ∈ name, isWord c := by
  obtain ⟨c, more, rfl, hc, hmore⟩ := h
  exact List.forall_mem_cons.mpr ⟨isWord_of_isNameStart hc, hmore⟩

theorem IsName.isWord (h : IsName isCapital name) : ∀ c ∈ name, isWord c :=
  h.of_isCapital.isWord_of_mem

theorem IsName.not_mem (h : IsName isNameStart name) {c : Char} (hc : Text.isWord c = false) :
    c ∉ name :=
  not_mem_of_forall h.isWord_of_mem hc

/-- The beginning of a name is a name. -/
theorem IsName.of_append {start : Char → Bool} {more : List Char} (h : IsName start (name ++ more))
    (hne : name ≠ []) : IsName start name := by
  obtain ⟨c, init, rfl⟩ := List.exists_cons_of_ne_nil hne
  obtain ⟨d, tail, heq, hd, htail⟩ := h
  obtain ⟨rfl, rfl⟩ := List.cons.inj heq
  exact ⟨c, init, rfl, hd, fun e he => htail e (List.mem_append_left more he)⟩

/-- Reading a name takes all of it. -/
theorem nameFrom?_eq_some_iff {start : Char → Bool} :
    nameFrom? start text = some (name, rest) ↔
      IsName start name ∧ text = name ++ rest ∧ ∀ c ∈ rest.head?, isWord c = false := by
  constructor
  · intro h
    obtain ⟨c, more, rfl⟩ : ∃ c more, text = c :: more :=
      List.exists_cons_of_ne_nil (by rintro rfl; exact nomatch h)
    rw [nameFrom?, Option.ite_none_right_eq_some] at h
    obtain ⟨hc, hread⟩ := h
    obtain ⟨rfl, rfl⟩ := Prod.mk.inj (Option.some.inj hread)
    refine ⟨⟨c, _, rfl, hc, fun d hd => List.mem_takeWhile_imp hd⟩, ?_, fun d hd => ?_⟩
    · rw [List.cons_append, List.takeWhile_append_dropWhile]
    · have hnot := List.head?_dropWhile_not isWord more
      rw [Option.mem_def.mp hd] at hnot
      exact hnot
  · rintro ⟨⟨c, more, rfl, hc, hmore⟩, rfl, hhead⟩
    rw [List.cons_append, nameFrom?, if_pos hc, takeWhile_append_of_forall hmore hhead,
      dropWhile_append_of_forall hmore hhead]

/-- A text that starts with a name starts with a word character. -/
theorem IsName.head?_isWord (h : IsName isNameStart name) (rest : List Char) :
    ∀ c ∈ (name ++ rest).head?, Text.isWord c := by
  obtain ⟨c, more, rfl, hc, -⟩ := h
  exact forall_head?_cons (isWord_of_isNameStart hc) (more ++ rest)

/-- A text that starts with an exported name does not start with white space. -/
theorem IsName.head?_not_isBlank (h : IsName isCapital name) (rest : List Char) :
    ∀ c ∈ (name ++ rest).head?, isBlank c = false :=
  fun c hc => isBlank_of_isWord (h.of_isCapital.head?_isWord rest c hc)

/-! ### Type parameters -/

/-- A whole list of type parameters, with its brackets. -/
def IsTypeParameters (params : List Char) : Prop :=
  afterTypeParameters? params = some []

/-- What closes a list of type parameters is found without looking further. -/
theorem closeBracket?_eq_some_iff {nested : Bool} :
    closeBracket? nested text = some rest ↔
      ∃ inner, closeBracket? nested inner = some [] ∧ text = inner ++ rest := by
  constructor
  · intro h
    fun_induction closeBracket? nested text with
    | case1 => cases h
    | case2 text ih =>
      obtain ⟨inner, hinner, rfl⟩ := ih h
      exact ⟨']' :: inner, hinner, rfl⟩
    | case3 nested text hnested =>
      obtain rfl := Option.some.inj h
      refine ⟨[']'], ?_, rfl⟩
      rw [closeBracket?, if_pos rfl, if_neg hnested]
    | case4 => cases h
    | case5 nested text hnested hclose ih =>
      obtain ⟨inner, hinner, rfl⟩ := ih h
      refine ⟨'[' :: inner, ?_, rfl⟩
      rw [closeBracket?, if_neg hclose, if_pos rfl, if_neg hnested]
      exact hinner
    | case6 nested c text hclose hopen ih =>
      obtain ⟨inner, hinner, rfl⟩ := ih h
      refine ⟨c :: inner, ?_, rfl⟩
      rw [closeBracket?, if_neg hclose, if_neg hopen]
      exact hinner
  · rintro ⟨inner, hinner, rfl⟩
    fun_induction closeBracket? nested inner with
    | case1 => cases hinner
    | case2 inner ih => exact ih hinner
    | case3 nested inner hnested =>
      obtain rfl := Option.some.inj hinner
      rw [List.singleton_append, closeBracket?, if_pos rfl, if_neg hnested]
    | case4 => cases hinner
    | case5 nested inner hnested hclose ih =>
      rw [List.cons_append, closeBracket?, if_neg hclose, if_pos rfl, if_neg hnested]
      exact ih hinner
    | case6 nested c inner hclose hopen ih =>
      rw [List.cons_append, closeBracket?, if_neg hclose, if_neg hopen]
      exact ih hinner

/-- Reading type parameters takes a whole list of them. -/
theorem afterTypeParameters?_eq_some_iff :
    afterTypeParameters? text = some rest ↔
      ∃ params, IsTypeParameters params ∧ text = params ++ rest := by
  constructor
  · intro h
    rw [afterTypeParameters?.eq_def] at h
    split at h
    · obtain ⟨inner, hinner, rfl⟩ := closeBracket?_eq_some_iff.mp h
      exact ⟨'[' :: inner, hinner, rfl⟩
    · cases h
  · rintro ⟨params, hparams, rfl⟩
    rw [IsTypeParameters, afterTypeParameters?.eq_def] at hparams
    split at hparams
    · exact closeBracket?_eq_some_iff.mpr ⟨_, hparams, rfl⟩
    · cases hparams

/-- Type parameters start with a bracket. -/
theorem IsTypeParameters.exists_cons {params : List Char} (h : IsTypeParameters params) :
    ∃ inner, params = '[' :: inner := by
  rw [IsTypeParameters, afterTypeParameters?.eq_def] at h
  split at h
  · exact ⟨_, rfl⟩
  · cases h

/-- A list of type parameters, or nothing. -/
def MayBeTypeParameters (params : List Char) : Prop :=
  params = [] ∨ IsTypeParameters params

/-- A text is type parameters, if it starts with them, and what is left without them. -/
theorem exists_append_skipTypeParameters (text : List Char) :
    ∃ params, MayBeTypeParameters params ∧ text = params ++ skipTypeParameters text := by
  rw [skipTypeParameters]
  cases hread : afterTypeParameters? text with
  | none => exact ⟨[], .inl rfl, rfl⟩
  | some rest =>
    obtain ⟨params, hparams, rfl⟩ := afterTypeParameters?_eq_some_iff.mp hread
    exact ⟨params, .inr hparams, rfl⟩

/-- What stands behind type parameters, when it does not start with more of them. -/
theorem skipTypeParameters_append {params : List Char} (hparams : MayBeTypeParameters params)
    (hrest : rest.head? ≠ some '[') : skipTypeParameters (params ++ rest) = rest := by
  rcases hparams with rfl | hparams
  · have hnone : afterTypeParameters? rest = none := by
      rw [afterTypeParameters?.eq_def]
      split
      · exact absurd rfl hrest
      · rfl
    rw [List.nil_append, skipTypeParameters, hnone, Option.getD_none]
  · have hsome : afterTypeParameters? (params ++ rest) = some rest :=
      afterTypeParameters?_eq_some_iff.mpr ⟨params, hparams, rfl⟩
    rw [skipTypeParameters, hsome, Option.getD_some]

/-! ### A word and a name -/

/-- The exported name behind a keyword, and the text behind the name. -/
def nameAfter? (keyword : Keyword) (line : List Char) : Option (List Char × List Char) :=
  (after? keyword.spelling line).bind fun rest => (afterBlanks? rest).bind (nameFrom? isCapital)

/-- A keyword and a name have white space between them. -/
theorem nameAfter?_eq_some_iff {keyword : Keyword} {line : List Char} :
    nameAfter? keyword line = some (name, rest) ↔
      ∃ gap, IsGap gap ∧ IsName isCapital name ∧ (∀ c ∈ rest.head?, isWord c = false) ∧
        line = keyword.spelling ++ (gap ++ (name ++ rest)) := by
  simp only [nameAfter?, Option.bind_eq_some_iff, after?_eq_some_iff, afterBlanks?_eq_some_iff,
    nameFrom?_eq_some_iff]
  constructor
  · rintro ⟨_, rfl, _, ⟨gap, hgap, rfl, -⟩, hname, rfl, hhead⟩
    exact ⟨gap, hgap, hname, hhead, rfl⟩
  · rintro ⟨gap, hgap, hname, hhead, rfl⟩
    exact ⟨_, rfl, _, ⟨gap, hgap, rfl, hname.head?_not_isBlank rest⟩, hname, rfl, hhead⟩

theorem typeName?_eq (line : List Char) : typeName? line = nameAfter? .type line := rfl

/-- A function heading is a name behind its word, type parameters, and a parenthesis. -/
theorem function?_eq (line : List Char) :
    function? line = (nameAfter? .func line).bind fun r =>
      (after? ['('] (trimLeft (skipTypeParameters r.2))).map fun rest => (.function r.1, rest) := by
  rw [function?, nameAfter?]
  simp only [Option.bind_eq_bind, Option.bind_assoc, Option.map_eq_bind]
  rfl

/-- A single declaration is a name behind its word, and the rest of the line. -/
theorem single?_eq (kind : ValueKind) (line : List Char) :
    single? kind line = (nameAfter? kind.keyword line).bind fun r =>
      (lastLine? r.2).map fun s => (.single kind r.1 s.1, s.2) := by
  rw [single?, nameAfter?]
  simp only [Option.bind_eq_bind, Option.bind_assoc, Option.map_eq_bind]
  rfl

/-! ### Headings that open a body -/

theorem Keyword.head?_not_isBlank (keyword : Keyword) (rest : List Char) :
    ∀ c ∈ (keyword.spelling ++ rest).head?, isBlank c = false := by
  intro c hc
  cases keyword <;> (obtain rfl := Option.some.inj hc; decide)

/-- Between a name and what follows it behind white space, type parameters end the name too. -/
theorem head?_not_isWord_of_params {params gap : List Char} (hparams : MayBeTypeParameters params)
    (hgap : IsGap gap) (rest : List Char) :
    ∀ c ∈ (params ++ (gap ++ rest)).head?, isWord c = false := by
  rcases hparams with rfl | hparams
  · exact hgap.head?_not_isWord rest
  · obtain ⟨inner, rfl⟩ := hparams.exists_cons
    exact forall_head?_cons (by decide) _

/-- **A heading that opens a body** is the word of a type, a name, type parameters or none, and the
word of the body before its brace, with white space in its places. -/
theorem body?_eq_some_iff {keyword : Keyword} {line : List Char} :
    body? keyword line = some (name, rest) ↔
      ∃ gap params gap' pad, IsGap gap ∧ IsName isCapital name ∧ MayBeTypeParameters params ∧
        IsGap gap' ∧ (∀ c ∈ pad, isBlank c) ∧
          line = Keyword.type.spelling ++ (gap ++ (name ++ (params ++ (gap' ++
            (keyword.spelling ++ (pad ++ '{' :: rest)))))) := by
  simp only [body?, typeName?_eq, Option.bind_eq_bind, Option.bind_eq_some_iff,
    Option.some.injEq, Prod.exists, Prod.mk.injEq, nameAfter?_eq_some_iff,
    afterBlanks?_eq_some_iff, after?_eq_some_iff, List.singleton_append]
  constructor
  · rintro ⟨_, behind, ⟨gap, hgap, hname, -, rfl⟩, _, ⟨gap', hgap', hskip, -⟩, on, rfl, _, htrim,
      rfl, rfl⟩
    obtain ⟨params, hparams, hbehind⟩ := exists_append_skipTypeParameters behind
    obtain ⟨pad, hpad, hon, -⟩ := exists_append_trimLeft on
    refine ⟨gap, params, gap', pad, hgap, hname, hparams, hgap', hpad, ?_⟩
    rw [hbehind, hskip, hon, htrim]
  · rintro ⟨gap, params, gap', pad, hgap, hname, hparams, hgap', hpad, rfl⟩
    have hskip : skipTypeParameters (params ++ (gap' ++
        (keyword.spelling ++ (pad ++ '{' :: rest)))) =
          gap' ++ (keyword.spelling ++ (pad ++ '{' :: rest)) := by
      refine skipTypeParameters_append hparams ?_
      obtain ⟨b, more, rfl, hb⟩ := hgap'.exists_cons
      rw [List.cons_append, List.head?_cons, ne_eq, Option.some.injEq]
      rintro rfl
      exact absurd hb (by decide)
    have htrim : trimLeft (pad ++ '{' :: rest) = '{' :: rest := by
      exact trimLeft_append hpad (forall_head?_cons (by decide) rest)
    exact ⟨name, _, ⟨gap, hgap, hname, head?_not_isWord_of_params hparams hgap' _, rfl⟩, _,
      ⟨gap', hgap', hskip, keyword.head?_not_isBlank _⟩, _, rfl, rest, htrim, rfl, rfl⟩

/-- What is written behind a heading that opens a body belongs to the body. -/
theorem body?_append {keyword : Keyword} {line : List Char}
    (h : body? keyword line = some (name, rest)) (more : List Char) :
    body? keyword (line ++ more) = some (name, rest ++ more) := by
  obtain ⟨gap, params, gap', pad, hgap, hname, hparams, hgap', hpad, rfl⟩ :=
    body?_eq_some_iff.mp h
  refine body?_eq_some_iff.mpr ⟨gap, params, gap', pad, hgap, hname, hparams, hgap', hpad, ?_⟩
  simp only [List.append_assoc, List.cons_append]

/-! ### Readings of a type heading -/

/-- The best start leaves off all white space. -/
theorem blankSuffixes_eq_cons (text : List Char) :
    ∃ others, blankSuffixes text = trimLeft text :: others := by
  fun_induction blankSuffixes text with
  | case1 => exact ⟨[], rfl⟩
  | case2 c text hc ih =>
    obtain ⟨others, hothers⟩ := ih
    have htrim : trimLeft (c :: text) = trimLeft text := List.dropWhile_cons_of_pos hc
    exact ⟨others ++ [c :: text], by rw [hothers, htrim, List.cons_append]⟩
  | case3 c text hc =>
    have htrim : trimLeft (c :: text) = c :: text := List.dropWhile_cons_of_neg hc
    exact ⟨[], by rw [htrim]⟩

/-- The worst start leaves off nothing. -/
theorem self_mem_blankSuffixes (text : List Char) : text ∈ blankSuffixes text := by
  rw [blankSuffixes.eq_def]
  split
  · exact List.mem_cons_self
  · split <;> simp

theorem valueStarts_eq_map (h : (trimLeft text).head? ≠ some '=') :
    valueStarts text = (blankSuffixes text).map (false, ·) := by
  rw [valueStarts]
  split
  · rename_i heq
    exact absurd (by rw [heq, List.head?_cons]) h
  · rw [List.nil_append]

/-- **The best reading** of a type heading without an equals sign has the whole name, and its value
starts behind the type parameters and white space. -/
theorem typeReadings_eq_cons (name : List Char)
    (h : (trimLeft (skipTypeParameters rest)).head? ≠ some '=') :
    ∃ others, typeReadings name rest =
      ⟨name, false, trimLeft (skipTypeParameters rest)⟩ :: others := by
  obtain ⟨later, hlater⟩ := blankSuffixes_eq_cons (skipTypeParameters rest)
  have hstarts := valueStarts_eq_map h
  rw [hlater, List.map_cons] at hstarts
  obtain ⟨more, hmore⟩ : ∃ more,
      ((afterTypeParameters? rest).toList ++ [rest]).flatMap valueStarts =
      valueStarts (skipTypeParameters rest) ++ more := by
    rw [skipTypeParameters]
    cases afterTypeParameters? rest with
    | none => exact ⟨[], by simp⟩
    | some behind => exact ⟨valueStarts rest, by simp⟩
  rw [typeReadings, hmore, hstarts, List.cons_append, List.map_cons, List.cons_append]
  exact ⟨_, rfl⟩

/-- The readings with the whole name come first, and one of them has for its value all that stands
behind the name. -/
theorem exists_typeReadings_eq_append (name rest : List Char) :
    ∃ whole cut, typeReadings name rest = whole ++ cut ∧ ⟨name, false, rest⟩ ∈ whole ∧
      ∀ reading ∈ whole, reading.name = name := by
  refine ⟨_, _, rfl, ?_, ?_⟩
  · have hstart : (false, rest) ∈ valueStarts rest :=
      List.mem_append_right _ (List.mem_map_of_mem (self_mem_blankSuffixes rest))
    have hmem : (false, rest) ∈
        ((afterTypeParameters? rest).toList ++ [rest]).flatMap valueStarts :=
      List.mem_flatMap.mpr ⟨rest, by simp, hstart⟩
    exact List.mem_map_of_mem hmem
  · intro reading hreading
    obtain ⟨start, -, rfl⟩ := List.mem_map.mp hreading
    rfl

/-- Without text behind the name there is no value but the last letter of the name. -/
theorem typeReadings_concat_nil (init : List Char) (last : Char) :
    typeReadings (init ++ [last]) [] = ⟨init ++ [last], false, []⟩ ::
      if init = [] then [] else [⟨init, false, [last]⟩] := by
  simp [typeReadings, afterTypeParameters?, valueStarts, blankSuffixes, trimLeft, trimLeftOf,
    List.length_pos_iff]

/-- A reading of a text without a line feed fails only when there is no text for the value. -/
theorem TypeReading.heading?_of_not_mem {reading : TypeReading} (hline : '\n' ∉ reading.text)
    (hne : reading.text ≠ []) :
    reading.heading? = some (.type reading.name reading.equated reading.text, []) := by
  rw [TypeReading.heading?, lastLine?_of_not_mem hline]
  simp [hne]

theorem TypeReading.name_of_heading? {reading : TypeReading} {equated : Bool} {value : List Char}
    (h : reading.heading? = some (.type name equated value, rest)) : name = reading.name := by
  rw [TypeReading.heading?, Option.bind_eq_bind, Option.bind_eq_some_iff] at h
  obtain ⟨r, -, hr⟩ := h
  rw [Option.ite_none_left_eq_some, Option.some.injEq] at hr
  obtain ⟨hheading, -⟩ := Prod.mk.inj hr.2
  exact (Heading.type.inj hheading).1.symm

end GoIndex.Source
