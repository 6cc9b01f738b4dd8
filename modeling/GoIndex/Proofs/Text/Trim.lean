import Mathlib.Data.List.Infix
import Mathlib.Data.List.TakeWhile
import GoIndex.Text.Blank

/-!
# Trimming

A trimmed text is a stretch of the text that it comes from (`isInfix_trim`), with no white space at
either end (`isBlank_head_trim`, `isBlank_getLast_trim`). A text without white space at its ends is
trimmed already (`trim_eq_self`), and white space around a text makes no difference
(`trim_append_left`, `trim_append_right`).
-/

namespace GoIndex.Text

variable {text : List Char}

/-! ### The ends of a text -/

theorem forall_head?_cons {P : Char → Prop} {c : Char} (h : P c) (rest : List Char) :
    ∀ d ∈ (c :: rest).head?, P d := by
  intro d hd
  obtain rfl := Option.some.inj hd
  exact h

theorem forall_getLast?_concat {P : Char → Prop} {c : Char} (h : P c) (init : List Char) :
    ∀ d ∈ (init ++ [c]).getLast?, P d := by
  rw [List.getLast?_concat]
  exact forall_head?_cons h []

/-! ### Any class of characters -/

section Class

variable {p : Char → Bool}

/-- What holds of each character of a text is decided along the text, and not over all characters
that there are. -/
instance decidableForallMem {P : Char → Prop} [DecidablePred P] (text : List Char) :
    Decidable (∀ c ∈ text, P c) :=
  List.decidableBAll P text

/-- What stands behind characters of a class and does not start with one. -/
theorem dropWhile_append_of_forall {front rest : List Char} (hfront : ∀ c ∈ front, p c)
    (hrest : ∀ c ∈ rest.head?, p c = false) : (front ++ rest).dropWhile p = rest := by
  rw [List.dropWhile_append_of_pos hfront]
  cases rest with
  | nil => rfl
  | cons c rest => rw [List.dropWhile_cons_of_neg (by simpa using hrest c rfl)]

theorem takeWhile_append_of_forall {front rest : List Char} (hfront : ∀ c ∈ front, p c)
    (hrest : ∀ c ∈ rest.head?, p c = false) : (front ++ rest).takeWhile p = front := by
  have hsplit := List.takeWhile_append_dropWhile (p := p) (l := front ++ rest)
  rw [dropWhile_append_of_forall hfront hrest] at hsplit
  exact List.append_cancel_right hsplit

/-- Trimming leaves what stands between characters of a class, when it has none of them itself. -/
theorem trimRightOf_trimLeftOf_append {left middle right : List Char} (hleft : ∀ c ∈ left, p c)
    (hmiddle : ∀ c ∈ middle, p c = false) (hright : ∀ c ∈ right, p c) :
    trimRightOf p (trimLeftOf p (left ++ middle ++ right)) = middle := by
  cases middle with
  | nil =>
    have hall : (left ++ [] ++ right).dropWhile p = [] := by
      simpa [List.dropWhile_eq_nil_iff, or_imp, forall_and] using ⟨hleft, hright⟩
    rw [trimLeftOf, hall]
    rfl
  | cons c middle =>
    have hreverse : ∀ d ∈ (c :: middle).reverse.head?, p d = false := by
      intro d hd
      exact hmiddle d (List.mem_reverse.mp (List.mem_of_head? hd))
    rw [trimLeftOf, List.append_assoc, dropWhile_append_of_forall hleft, trimRightOf,
      List.reverse_append, dropWhile_append_of_forall _ hreverse, List.reverse_reverse]
    · exact fun d hd => hright d (List.mem_reverse.mp hd)
    · exact fun d hd => hmiddle d (by simp_all)

/-- A text is what trimming leaves, with characters of the class around it. -/
theorem exists_append_trim (p : Char → Bool) (text : List Char) :
    ∃ left right, (∀ c ∈ left, p c) ∧ (∀ c ∈ right, p c) ∧
      text = left ++ trimRightOf p (trimLeftOf p text) ++ right := by
  have hback := List.takeWhile_append_dropWhile (p := p) (l := (trimLeftOf p text).reverse)
  refine ⟨text.takeWhile p, ((trimLeftOf p text).reverse.takeWhile p).reverse,
    fun c hc => List.mem_takeWhile_imp hc,
    fun c hc => List.mem_takeWhile_imp (List.mem_reverse.mp hc), ?_⟩
  have htrimmed : trimRightOf p (trimLeftOf p text) ++
      ((trimLeftOf p text).reverse.takeWhile p).reverse = trimLeftOf p text := by
    rw [trimRightOf, ← List.reverse_append, hback, List.reverse_reverse]
  rw [List.append_assoc, htrimmed]
  exact List.takeWhile_append_dropWhile.symm

/-- Characters of a class leave out what is not in the class. -/
theorem not_mem_of_forall {front : List Char} (hfront : ∀ c ∈ front, p c) {c : Char}
    (hc : p c = false) : c ∉ front := by
  intro hmem
  rw [hfront c hmem] at hc
  cases hc

end Class

/-! ### What is left -/

theorem isSuffix_trimLeft (text : List Char) : trimLeft text <:+ text :=
  List.dropWhile_suffix _

theorem isPrefix_trimRight (text : List Char) : trimRight text <+: text := by
  have h : text.reverse.dropWhile isBlank <:+ text.reverse := List.dropWhile_suffix _
  have hprefix := List.reverse_prefix.mpr h
  rwa [List.reverse_reverse] at hprefix

/-- A trimmed text is a stretch of the text. -/
theorem isInfix_trim (text : List Char) : trim text <:+: text :=
  (isPrefix_trimRight _).isInfix.trans (isSuffix_trimLeft text).isInfix

/-- Nothing is left of white space, and of nothing else. -/
theorem trim_eq_nil_iff : trim text = [] ↔ ∀ c ∈ text, isBlank c := by
  constructor
  · intro hnil
    obtain ⟨left, right, hleft, hright, htext⟩ := exists_append_trim isBlank text
    rw [show trimRightOf isBlank (trimLeftOf isBlank text) = trim text from rfl, hnil,
      List.append_nil] at htext
    rw [htext]
    intro c hc
    rcases List.mem_append.mp hc with hc | hc
    · exact hleft c hc
    · exact hright c hc
  · intro hall
    rw [trim, trimLeft, trimLeftOf, List.dropWhile_eq_nil_iff.mpr hall]
    rfl

/-- A trimmed text does not start with white space. -/
theorem isBlank_head_trim {c : Char} (h : (trim text).head? = some c) : isBlank c = false := by
  obtain ⟨rest, hrest⟩ := isPrefix_trimRight (trimLeft text)
  have hhead : (trimLeft text).head? = some c := by
    rw [← hrest, List.head?_append, show trimRight (trimLeft text) = trim text from rfl, h,
      Option.some_or]
  have hnot := List.head?_dropWhile_not isBlank text
  rw [show text.dropWhile isBlank = trimLeft text from rfl, hhead] at hnot
  exact hnot

/-- A trimmed text does not end in white space. -/
theorem isBlank_getLast_trim {c : Char} (h : (trim text).getLast? = some c) :
    isBlank c = false := by
  have hnot := List.head?_dropWhile_not isBlank (trimLeft text).reverse
  rw [trim, trimRight, trimRightOf, List.getLast?_reverse] at h
  rw [h] at hnot
  exact hnot

/-! ### Texts that are trimmed already -/

theorem trimLeft_cons_of_not_blank {c : Char} (h : isBlank c = false) (rest : List Char) :
    trimLeft (c :: rest) = c :: rest := by
  rw [trimLeft, trimLeftOf, List.dropWhile_cons, if_neg (by simp [h])]

theorem trimLeft_eq_self (h : ∀ c ∈ text.head?, isBlank c = false) : trimLeft text = text := by
  cases text with
  | nil => rfl
  | cons c rest => exact trimLeft_cons_of_not_blank (h c rfl) rest

theorem trimRight_eq_self (h : ∀ c ∈ text.getLast?, isBlank c = false) :
    trimRight text = text := by
  have hrev : trimLeft text.reverse = text.reverse :=
    trimLeft_eq_self (by rwa [List.head?_reverse])
  rw [trimRight, trimRightOf, show text.reverse.dropWhile isBlank = trimLeft text.reverse from rfl,
    hrev, List.reverse_reverse]

/-- A text without white space at its ends is trimmed already. -/
theorem trim_eq_self (hhead : ∀ c ∈ text.head?, isBlank c = false)
    (hlast : ∀ c ∈ text.getLast?, isBlank c = false) : trim text = text := by
  rw [trim, trimLeft_eq_self hhead, trimRight_eq_self hlast]

/-- A trimmed text is trimmed already. -/
theorem trim_trim (text : List Char) : trim (trim text) = trim text :=
  trim_eq_self (fun _ hc => isBlank_head_trim hc) fun _ hc => isBlank_getLast_trim hc

/-! ### White space around a text -/

theorem trimRight_append_blank {c : Char} (h : isBlank c) (text : List Char) :
    trimRight (text ++ [c]) = trimRight text := by
  rw [trimRight, trimRightOf, List.reverse_append, List.reverse_singleton, List.singleton_append,
    List.dropWhile_cons, if_pos h]
  rfl

/-- White space at the end of a text is trimmed away. -/
theorem trim_append_blank {c : Char} (h : isBlank c) (text : List Char) :
    trim (text ++ [c]) = trim text := by
  rw [trim, trimLeft, trimLeftOf, List.dropWhile_append]
  split
  · -- nothing but white space stands in front of it
    rename_i hempty
    have htext : text.dropWhile isBlank = [] := List.isEmpty_iff.mp hempty
    rw [trim, trimLeft, trimLeftOf, htext, List.dropWhile_cons, if_pos h]
    rfl
  · exact trimRight_append_blank h _

theorem trimLeft_append_left {blanks : List Char} (hblanks : ∀ c ∈ blanks, isBlank c)
    (text : List Char) : trimLeft (blanks ++ text) = trimLeft text :=
  List.dropWhile_append_of_pos hblanks

/-- White space in front of a text is trimmed away. -/
theorem trim_append_left {blanks : List Char} (hblanks : ∀ c ∈ blanks, isBlank c)
    (text : List Char) : trim (blanks ++ text) = trim text := by
  rw [trim, trimLeft_append_left hblanks, trim]

/-- White space behind a text is trimmed away. -/
theorem trim_append_right {blanks : List Char} (hblanks : ∀ c ∈ blanks, isBlank c)
    (text : List Char) : trim (text ++ blanks) = trim text := by
  induction blanks generalizing text with
  | nil => rw [List.append_nil]
  | cons c blanks ih =>
    obtain ⟨hc, hblanks⟩ := List.forall_mem_cons.mp hblanks
    rw [List.append_cons, ih hblanks, trim_append_blank hc]

theorem trim_trimRight (text : List Char) : trim (trimRight text) = trim text := by
  have hsplit := congrArg List.reverse
    (List.takeWhile_append_dropWhile (p := isBlank) (l := text.reverse))
  rw [List.reverse_append, List.reverse_reverse] at hsplit
  calc trim (trimRight text)
      = trim (trimRight text ++ (text.reverse.takeWhile isBlank).reverse) :=
        (trim_append_right (fun c hc => List.mem_takeWhile_imp (List.mem_reverse.mp hc)) _).symm
    _ = trim text := congrArg trim hsplit

/-- What ends without white space is kept whole in front of what is trimmed. -/
theorem trimRight_append {front : List Char} (hlast : ∀ c ∈ front.getLast?, isBlank c = false)
    (text : List Char) : trimRight (front ++ text) = front ++ trimRight text := by
  have hfront : front.reverse.dropWhile isBlank = front.reverse := by
    have hkeep := congrArg List.reverse (trimRight_eq_self hlast)
    rwa [trimRight, trimRightOf, List.reverse_reverse] at hkeep
  rw [trimRight, trimRightOf, List.reverse_append, List.dropWhile_append]
  split
  · rename_i hempty
    have htext : text.reverse.dropWhile isBlank = [] := List.isEmpty_iff.mp hempty
    rw [trimRight, trimRightOf, htext, hfront, List.reverse_reverse, List.reverse_nil,
      List.append_nil]
  · rw [List.reverse_append, List.reverse_reverse, trimRight, trimRightOf]

end GoIndex.Text
