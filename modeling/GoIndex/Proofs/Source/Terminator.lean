import GoIndex.Proofs.Source.Comment

/-!
# Closing marks in the documentation

The mark that closes a block comment is taken off the end of a line, and nowhere else. A line with
such a mark before its end may leave it in the documentation. It does not when the star of the mark
is taken for one of the stars at the start of the line; `ShowsClosing` says what is left, and a
documentation has a closing mark in it exactly when one of the lines of its run shows one
(`documentationAt?_closing_iff`).

The marks of a line come off one after the other, and so it is told: what stands before a closing
mark decides whether it is still there when the mark at the end is gone (`LosesClosing.closes_iff`),
when the opening mark is gone (`LosesOpening.closes_iff`) and when a star is gone
(`LosesStar.closes_iff`).
-/

namespace GoIndex.Source

open Text

variable {line text rest : List Char}

/-- The mark that closes a block comment. -/
def closing : Line := ['*', '/']

/-! ### White space beside a mark -/

theorem closing_infix_iff :
    closing <:+: text ↔ ∃ front back, text = front ++ '*' :: '/' :: back := by
  constructor
  · rintro ⟨front, back, rfl⟩
    exact ⟨front, back, by simp [closing]⟩
  · rintro ⟨front, back, rfl⟩
    exact ⟨front, back, by simp [closing]⟩

theorem not_mem_closing {c : Char} (hc : isBlank c) : c ∉ closing := by
  intro hmem
  rcases List.mem_pair.mp hmem with rfl | rfl
  · exact absurd hc (by decide)
  · exact absurd hc (by decide)

/-- White space parts a text in two, and no mark goes across it. -/
theorem closing_infix_append_cons_iff {c : Char} (hc : isBlank c) (front back : List Char) :
    closing <:+: front ++ c :: back ↔ closing <:+: front ∨ closing <:+: back := by
  constructor
  · intro h
    have hprefix {part : Line} (hpart : part <:+ closing) (hstart : part <+: c :: back) :
        part = [] := by
      rcases List.prefix_cons_iff.mp hstart with rfl | ⟨more, rfl, -⟩
      · rfl
      · exact absurd (hpart.subset List.mem_cons_self) (not_mem_closing hc)
    rcases List.infix_append_iff.mp h with hfront | hback | ⟨left, right, hsplit, hleft, hright⟩
    · exact .inl hfront
    · rcases List.infix_cons_iff.mp hback with hstart | hback
      · cases hprefix List.suffix_rfl hstart
      · exact .inr hback
    · obtain rfl := hprefix ⟨left, hsplit.symm⟩ hright
      rw [List.append_nil] at hsplit
      exact .inl (hsplit ▸ hleft.isInfix)
  · rintro (hfront | hback)
    · exact hfront.trans (List.prefix_append _ _).isInfix
    · exact hback.trans ((List.suffix_cons c back).trans (List.suffix_append _ _)).isInfix

theorem closing_infix_append_left {blanks : List Char} (hblanks : ∀ c ∈ blanks, isBlank c) :
    closing <:+: blanks ++ text ↔ closing <:+: text := by
  induction blanks with
  | nil => rfl
  | cons c blanks ih =>
    rw [List.forall_mem_cons] at hblanks
    have hstep := closing_infix_append_cons_iff hblanks.1 [] (blanks ++ text)
    rw [List.cons_append, ← ih hblanks.2]
    simpa [closing] using hstep

theorem closing_infix_append_right {blanks : List Char} (hblanks : ∀ c ∈ blanks, isBlank c) :
    closing <:+: text ++ blanks ↔ closing <:+: text := by
  cases blanks with
  | nil => rw [List.append_nil]
  | cons c blanks =>
    rw [List.forall_mem_cons] at hblanks
    have hnone : ¬ closing <:+: blanks := fun h =>
      not_mem_closing (hblanks.2 '*' (h.subset (by decide))) (by decide)
    rw [closing_infix_append_cons_iff hblanks.1]
    exact or_iff_left hnone

theorem closing_infix_trim_iff : closing <:+: trim text ↔ closing <:+: text := by
  obtain ⟨left, right, hleft, hright, htext⟩ := exists_append_trim isBlank text
  conv_rhs => rw [htext]
  rw [closing_infix_append_right hright, closing_infix_append_left hleft]
  rfl

/-- A text made of parts with spaces between them has a mark when one of the parts has one. -/
theorem closing_infix_intercalate_iff {parts : List (List Char)} :
    closing <:+: [' '].intercalate parts ↔ ∃ part ∈ parts, closing <:+: part := by
  induction parts with
  | nil => simp [closing]
  | cons part parts ih =>
    cases parts with
    | nil => simp
    | cons next parts =>
      rw [List.intercalate_cons_cons, List.append_assoc, List.singleton_append,
        closing_infix_append_cons_iff (by decide), ih]
      exact (List.exists_mem_cons_iff _ _ _).symm

/-! ### One mark after the other -/

/-- A closing mark stands in the text behind a front of which something holds. -/
def ClosesBehind (P : Line → Prop) (text : Line) : Prop :=
  ∃ front back, text = front ++ '*' :: '/' :: back ∧ P front

/-- What stands at the start of a line and takes in the star of a closing mark behind it: nothing, a
slash with stars, or a mark that opens a block comment and one white space character. -/
inductive TakesStar : Line → Prop
  | start : TakesStar []
  | slash {stars : Line} (hstars : ∀ c ∈ stars, c = '*') : TakesStar ('/' :: stars)
  | blank {stars : Line} {c : Char} (hne : stars ≠ []) (hstars : ∀ c ∈ stars, c = '*')
    (hc : isBlank c) : TakesStar ('/' :: (stars ++ [c]))

/-- A line shows a closing mark: not at its end, and not where its star is taken in at the start. -/
def ShowsClosing (line : Line) : Prop :=
  ∃ front back, line = front ++ '*' :: '/' :: back ∧ back ≠ [] ∧ ¬ TakesStar front

/-- Taking the mark off the end leaves those that something stands behind. -/
theorem LosesClosing.closes_iff (h : LosesClosing line rest) (P : Line → Prop) :
    (∃ front back, line = front ++ '*' :: '/' :: back ∧ back ≠ [] ∧ P front) ↔
      ClosesBehind P rest := by
  constructor
  · rintro ⟨front, back, hline, hback, hP⟩
    cases h with
    | mark =>
      -- two marks do not overlap, so the mark at the end lies behind the other one
      obtain ⟨init, last, rfl⟩ := (List.eq_nil_or_concat' back).resolve_left hback
      rcases List.eq_nil_or_concat' init with rfl | ⟨init, star, rfl⟩
      · have hlast := congrArg List.reverse hline
        simp at hlast
      · refine ⟨front, init, ?_, hP⟩
        have hcut : rest ++ ['*', '/'] = (front ++ '*' :: '/' :: init) ++ [star, last] := by
          simpa using hline
        exact (List.append_inj' hcut rfl).1
    | nothing hend => exact ⟨front, back, hline, hP⟩
  · rintro ⟨front, back, rfl, hP⟩
    cases h with
    | mark => exact ⟨front, back ++ ['*', '/'], by simp, by simp, hP⟩
    | nothing hend =>
      refine ⟨front, back, rfl, ?_, hP⟩
      rintro rfl
      exact hend (List.suffix_append front _)

/-- No star is taken in behind a character that is no star, unless it is the one white space
character behind an opening mark. -/
theorem not_takesStar {stars more : Line} {d : Char} (hd : d ≠ '*')
    (hmore : isBlank d → more ≠ []) : ¬ TakesStar ('/' :: (stars ++ d :: more)) := by
  intro h
  generalize hfront : '/' :: (stars ++ d :: more) = front at h
  cases h with
  | start => cases hfront
  | slash hall =>
    obtain ⟨-, rfl⟩ := List.cons.inj hfront
    exact hd (hall d (by simp))
  | @blank others c _ hall hc =>
    obtain ⟨-, hothers⟩ := List.cons.inj hfront
    rcases List.eq_nil_or_concat' more with rfl | ⟨init, last, rfl⟩
    · obtain ⟨-, hlast⟩ := List.append_inj' hothers rfl
      obtain rfl : d = c := by simpa using hlast
      exact hmore hc rfl
    · have hcut : (stars ++ d :: init) ++ [last] = others ++ [c] := by simpa using hothers
      obtain ⟨rfl, -⟩ := List.append_inj' hcut rfl
      exact hd (hall d (by simp))

/-- An opening mark lies wholly before every closing mark whose star it does not take in. -/
theorem exists_of_not_takesStar {stars front back : Line} (hstars : ∀ c ∈ stars, c = '*')
    (hhead : text.head? ≠ some '*') (hline : '/' :: (stars ++ text) = front ++ '*' :: '/' :: back)
    (hfront : ¬ TakesStar front) :
    ∃ d inner, front = '/' :: (stars ++ d :: inner) ∧ text = d :: inner ++ '*' :: '/' :: back := by
  rcases front with _ | ⟨c, front⟩
  · exact absurd .start hfront
  · obtain ⟨rfl, htail⟩ := List.cons.inj hline
    rcases List.append_eq_append_iff.mp htail with ⟨inner, rfl, htext⟩ | ⟨more, rfl, -⟩
    · rcases inner with _ | ⟨d, inner⟩
      · exact absurd (by rw [htext]; rfl) hhead
      · exact ⟨d, inner, rfl, htext⟩
    · exact absurd (.slash fun c hc => hstars c (List.mem_append_left _ hc)) hfront

/-- Without an opening mark a star is taken in at the very start only. -/
theorem takesStar_iff_of_not_opening {front back : Line}
    (hstart : ¬ ['/', '*'] <+: front ++ '*' :: '/' :: back) : TakesStar front ↔ front = [] := by
  constructor
  · intro h
    cases h with
    | start => rfl
    | @slash stars hstars =>
      refine absurd ?_ hstart
      rcases stars with _ | ⟨c, stars⟩
      · exact ⟨'/' :: back, by simp⟩
      · obtain rfl := hstars c List.mem_cons_self
        exact ⟨stars ++ '*' :: '/' :: back, by simp⟩
    | @blank stars c hne hstars hc =>
      refine absurd ?_ hstart
      obtain ⟨d, stars, rfl⟩ := List.exists_cons_of_ne_nil hne
      obtain rfl := hstars d List.mem_cons_self
      exact ⟨stars ++ c :: '*' :: '/' :: back, by simp⟩
  · rintro rfl
    exact .start

/-- Taking the opening mark off leaves the closing marks whose star it does not take in. One that is
then at the start of the line loses its star next. -/
theorem LosesOpening.closes_iff (h : LosesOpening line rest) :
    ClosesBehind (¬ TakesStar ·) line ↔ ClosesBehind (· ≠ []) rest := by
  cases h with
  | @mark stars text _ hne hstars hhead hrest =>
    constructor
    · rintro ⟨front, back, hline, hfront⟩
      obtain ⟨d, inner, rfl, rfl⟩ := exists_of_not_takesStar hstars hhead hline hfront
      cases hrest with
      | blank hd =>
        refine ⟨inner, back, rfl, ?_⟩
        rintro rfl
        exact hfront (.blank hne hstars hd)
      | nothing _ => exact ⟨d :: inner, back, rfl, List.cons_ne_nil _ _⟩
    · rintro ⟨front, back, rfl, hfront⟩
      obtain ⟨d, more, rfl⟩ := List.exists_cons_of_ne_nil hfront
      cases hrest with
      | @blank c _ hc =>
        have hstar : c ≠ '*' := fun heq => hhead (by rw [heq]; rfl)
        exact ⟨'/' :: (stars ++ c :: d :: more), back, by simp,
          not_takesStar hstar fun _ => List.cons_ne_nil _ _⟩
      | nothing hblank =>
        have hstar : d ≠ '*' := fun heq => hhead (by rw [heq]; rfl)
        refine ⟨'/' :: (stars ++ d :: more), back, by simp, not_takesStar hstar fun hd => ?_⟩
        rw [hblank d rfl] at hd
        cases hd
  | nothing hstart =>
    constructor
    · rintro ⟨front, back, rfl, hfront⟩
      exact ⟨front, back, rfl, mt (takesStar_iff_of_not_opening hstart).mpr hfront⟩
    · rintro ⟨front, back, rfl, hfront⟩
      exact ⟨front, back, rfl, mt (takesStar_iff_of_not_opening hstart).mp hfront⟩

theorem LosesBlank.closing_infix_iff (h : LosesBlank text rest) :
    closing <:+: text ↔ closing <:+: rest := by
  cases h with
  | @blank c _ hc =>
    have hstep : closing <:+: [c] ++ rest ↔ closing <:+: rest :=
      closing_infix_append_left (by simpa using hc)
    exact hstep
  | nothing hhead => rfl

/-- Taking a star off leaves the closing marks that something stands before. -/
theorem LosesStar.closes_iff (h : LosesStar line rest) :
    ClosesBehind (· ≠ []) line ↔ closing <:+: rest := by
  cases h with
  | @mark text _ hrest =>
    rw [← hrest.closing_infix_iff, Source.closing_infix_iff]
    constructor
    · rintro ⟨front, back, hline, hfront⟩
      obtain ⟨c, front, rfl⟩ := List.exists_cons_of_ne_nil hfront
      exact ⟨front, back, (List.cons.inj hline).2⟩
    · rintro ⟨front, back, rfl⟩
      exact ⟨'*' :: front, back, rfl, List.cons_ne_nil _ _⟩
  | nothing hhead =>
    rw [Source.closing_infix_iff]
    constructor
    · rintro ⟨front, back, hline, -⟩
      exact ⟨front, back, hline⟩
    · rintro ⟨front, back, rfl⟩
      refine ⟨front, back, rfl, ?_⟩
      rintro rfl
      exact hhead rfl

/-! ### Lines and runs -/

/-- **What a line of a block comment shows**: a closing mark that is neither at its end nor taken
for a part of what stands at its start. -/
theorem closing_infix_commentText?_iff (hline : ¬ ['/', '/'] <+: line) :
    (∃ said ∈ commentText? line, closing <:+: said) ↔ ShowsClosing line := by
  have hclosing := dropClosing_eq_iff.mp (rfl : dropClosing line = _)
  have hopening := dropOpening_eq_iff.mp (rfl : dropOpening (dropClosing line) = _)
  have hstar := dropStar_eq_iff.mp (rfl : dropStar (dropOpening (dropClosing line)) = _)
  have hsaid := says_iff.mp (.block hline hclosing hopening hstar)
  rw [hsaid, ShowsClosing, hclosing.closes_iff, hopening.closes_iff, hstar.closes_iff,
    ← closing_infix_trim_iff]
  generalize trim (dropStar (dropOpening (dropClosing line))) = said
  by_cases hsaid : said = []
  · simp [hsaid, closing]
  · simp [hsaid]

theorem closing_infix_docOf_iff {texts : List (List Char)} :
    (∃ text ∈ docOf texts, closing <:+: text) ↔ ∃ text ∈ texts, closing <:+: text := by
  rw [← closing_infix_intercalate_iff, ← closing_infix_trim_iff, docOf]
  by_cases htext : trim ([' '].intercalate texts) = []
  · simp [htext, closing]
  · simp [htext]

/-- **Closing marks in the documentation.** Where no line is a line comment, the documentation of a
position has a closing mark in it exactly when one of the lines of the run above shows one. -/
theorem documentationAt?_closing_iff (lines : List Line) (position : Nat)
    (hposition : position ≤ lines.length) (hlines : ∀ line ∈ lines, ¬ ['/', '/'] <+: trim line) :
    ∃ documentation, documentationAt? lines position = some documentation ∧
      ((∃ text ∈ documentation, ['*', '/'] <:+: text) ↔
        ∃ line ∈ docLines (lines.take position).reverse, ShowsClosing line) := by
  refine ⟨_, documentationAt?_natCast hposition, ?_⟩
  rw [documentation_eq]
  refine closing_infix_docOf_iff.trans ?_
  have hrun : ∀ line ∈ docLines (lines.take position).reverse, ¬ ['/', '/'] <+: line := by
    intro line hline
    have hmem := (List.takeWhile_sublist _).subset hline
    obtain ⟨source, hsource, rfl⟩ := List.mem_map.mp hmem
    refine hlines source (List.mem_of_mem_take (i := position) ?_)
    exact List.mem_reverse.mp (List.mem_of_mem_drop hsource)
  constructor
  · rintro ⟨said, hsaid, hclosing⟩
    obtain ⟨line, hline, hread⟩ := List.mem_filterMap.mp hsaid
    rw [List.mem_reverse] at hline
    refine ⟨line, hline, (closing_infix_commentText?_iff (hrun line hline)).mp ?_⟩
    exact ⟨said, hread, hclosing⟩
  · rintro ⟨line, hline, hshows⟩
    obtain ⟨said, hread, hclosing⟩ := (closing_infix_commentText?_iff (hrun line hline)).mpr hshows
    exact ⟨said, List.mem_filterMap.mpr ⟨line, List.mem_reverse.mpr hline, hread⟩, hclosing⟩

/-- A closing mark at the end of a line is no matter, and one that a remark stands behind is. -/
theorem documentationAt?_closing_iff_of_two_lines :
    let lines := ["/** One. */".toList, "* two */ // three".toList]
    (documentationAt? lines 1 = some (some "One.".toList) ∧
      ¬ ∃ line ∈ docLines (lines.take 1).reverse, ShowsClosing line) ∧
    documentationAt? lines 2 = some (some "One. two */ // three".toList) ∧
      ∃ line ∈ docLines (lines.take 2).reverse, ShowsClosing line := by
  intro lines
  have hlines : ∀ line ∈ lines, ¬ ['/', '/'] <+: trim line := by decide +kernel
  have hone : documentationAt? lines 1 = some (some "One.".toList) := by decide +kernel
  have htwo : documentationAt? lines 2 = some (some "One. two */ // three".toList) := by
    decide +kernel
  obtain ⟨first, hfirst, hshort⟩ := documentationAt?_closing_iff lines 1 (by decide) hlines
  obtain ⟨both, hboth, hlong⟩ := documentationAt?_closing_iff lines 2 (by decide) hlines
  obtain rfl := Option.some.inj (hone.symm.trans hfirst)
  obtain rfl := Option.some.inj (htwo.symm.trans hboth)
  refine ⟨⟨hone, mt hshort.mpr ?_⟩, htwo, hlong.mp ⟨_, rfl, by decide +kernel⟩⟩
  rintro ⟨text, htext, hclosing⟩
  obtain rfl := Option.some.inj htext
  revert hclosing
  decide +kernel

/-- Of two comments on one line the first keeps its closing mark. -/
theorem documentationAt?_keeps_closing :
    let lines := ["/* one */ /* two */".toList]
    (∀ line ∈ lines, ¬ ['/', '/'] <+: trim line) ∧
      ∃ text, documentationAt? lines 1 = some (some text) ∧ ['*', '/'] <:+: text := by
  refine ⟨by decide +kernel, "one */ /* two".toList, by decide +kernel, by decide +kernel⟩

end GoIndex.Source
