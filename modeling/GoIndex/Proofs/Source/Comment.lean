import Mathlib.Data.List.Forall2
import Mathlib.Data.List.ReduceOption
import GoIndex.Proofs.Text.Trim
import GoIndex.Source.Comment

/-!
# The documentation above a line

The walk up from a declaration keeps track of how far it has come. What it collects can be said
without that: it passes the nearest line if it is blank, and takes the longest run of comment lines
from there on (`docLines`, `commentRun_starting`). The documentation is made of what these lines
say, in source order (`documentationAt?_of_docLines`), so the lines above the run are of no account.

A comment may also stand behind code on its line. There it is cut off, and with it what may be left
of the line but code (`IsRemark`).

What one line says is spelled out mark by mark. `LosesBlank`, `LosesClosing`, `LosesOpening` and
`LosesStar` each say what a line loses and that it loses nothing when the mark is not there; `Says`
puts them together.
-/

namespace GoIndex.Source

open Text

variable {line text rest : List Char}

/-! ### The code of a line -/

/-- What may stand behind the code of a line: white space, or a comment behind white space. -/
inductive IsRemark : List Char → Prop
  | blanks {pad : List Char} (hpad : ∀ c ∈ pad, isBlank c) : IsRemark pad
  | comment (pad text : List Char) (hpad : ∀ c ∈ pad, isBlank c) :
    IsRemark (pad ++ '/' :: '/' :: text)

/-- Code without a comment mark is kept, when no mark comes about where it meets the rest. -/
theorem cutComment_append_of_not_infix {code : Line} (hcode : ¬ ['/', '/'] <:+: code)
    (hseam : code.getLast? = some '/' → rest.head? ≠ some '/') :
    cutComment (code ++ rest) = code ++ cutComment rest := by
  induction code with
  | nil => rfl
  | cons c code ih =>
    have hstep : cutComment (c :: (code ++ rest)) = c :: cutComment (code ++ rest) := by
      refine cutComment.eq_2 c (code ++ rest) ?_
      rintro more rfl hmore
      rcases code with _ | ⟨d, code⟩
      · exact hseam rfl (by rw [← List.nil_append rest, hmore]; rfl)
      · obtain ⟨rfl, -⟩ := List.cons.inj hmore
        exact hcode ⟨[], code, rfl⟩
    rw [List.cons_append, hstep, List.cons_append, ih fun hmark => hcode (hmark.trans
      (List.suffix_cons c code).isInfix)]
    intro hlast
    refine hseam ?_
    rcases code with _ | ⟨d, code⟩
    · cases hlast
    · rwa [List.getLast?_cons_cons]

theorem cutComment_append_of_slash_not_mem {code : Line} (hcode : '/' ∉ code) (rest : List Char) :
    cutComment (code ++ rest) = code ++ cutComment rest := by
  refine cutComment_append_of_not_infix (fun hmark => ?_) fun hlast => ?_
  · exact hcode (hmark.subset List.mem_cons_self)
  · exact absurd (List.mem_of_getLast? hlast) hcode

/-- Nothing but white space is left of a remark. -/
theorem IsRemark.isBlank_cutComment {remark : List Char} (h : IsRemark remark) :
    ∀ c ∈ cutComment remark, Text.isBlank c := by
  rcases h with hpad | ⟨pad, text, hpad⟩
  · have hcut := cutComment_append_of_slash_not_mem (not_mem_of_forall hpad (by decide)) []
    rw [List.append_nil] at hcut
    rw [hcut]
    simpa [cutComment] using hpad
  · rw [cutComment_append_of_slash_not_mem (not_mem_of_forall hpad (by decide))]
    simpa [cutComment] using hpad

/-! ### What a comment line says -/

/-- A text loses at most one white space character at its start. -/
inductive LosesBlank : List Char → List Char → Prop
  | blank {c : Char} {text : List Char} (hc : isBlank c) : LosesBlank (c :: text) text
  | nothing {text : List Char} (hhead : ∀ c ∈ text.head?, isBlank c = false) : LosesBlank text text

/-- A line loses the mark at its end that closes a block comment. -/
inductive LosesClosing : Line → Line → Prop
  | mark (text : Line) : LosesClosing (text ++ ['*', '/']) text
  | nothing {text : Line} (hend : ¬ ['*', '/'] <:+ text) : LosesClosing text text

/-- A line loses the mark at its start that opens a block comment, with all of its stars, and at
most one white space character behind it. -/
inductive LosesOpening : Line → Line → Prop
  | mark {stars text rest : Line} (hne : stars ≠ []) (hstars : ∀ c ∈ stars, c = '*')
    (hhead : text.head? ≠ some '*') (hrest : LosesBlank text rest) :
    LosesOpening ('/' :: (stars ++ text)) rest
  | nothing {text : Line} (hstart : ¬ ['/', '*'] <+: text) : LosesOpening text text

/-- A line loses one star at its start, and at most one white space character behind it. -/
inductive LosesStar : Line → Line → Prop
  | mark {text rest : Line} (hrest : LosesBlank text rest) : LosesStar ('*' :: text) rest
  | nothing {text : Line} (hhead : text.head? ≠ some '*') : LosesStar text text

/-- What a trimmed comment line says. A line comment loses its slashes. Any other line loses its
marks, from the end one by one, and then says nothing when nothing is left. -/
inductive Says : Line → Option (List Char) → Prop
  | line {text rest : List Char} (hrest : LosesBlank text rest) :
    Says ('/' :: '/' :: text) (some rest)
  | block {line opened starred bare : List Char} (hline : ¬ ['/', '/'] <+: line)
    (hclosing : LosesClosing line opened) (hopening : LosesOpening opened starred)
    (hstar : LosesStar starred bare) : Says line (if trim bare = [] then none else some (trim bare))

theorem dropBlank_eq_iff : dropBlank text = rest ↔ LosesBlank text rest := by
  constructor
  · rintro rfl
    rcases text with _ | ⟨c, text⟩
    · exact .nothing (by simp)
    · rw [dropBlank]
      split_ifs with hc
      · exact .blank hc
      · exact .nothing (by simpa using hc)
  · rintro (hc | hhead)
    · rw [dropBlank, if_pos hc]
    · rcases text with _ | ⟨c, text⟩
      · rfl
      · rw [dropBlank, if_neg (by simpa using hhead c rfl)]

theorem dropClosing_eq_iff : dropClosing line = rest ↔ LosesClosing line rest := by
  have htake (text : Line) :
      (text ++ ['*', '/']).take ((text ++ ['*', '/']).length - 2) = text := by
    rw [List.length_append, List.length_cons, List.length_singleton, Nat.add_sub_cancel,
      List.take_left]
  rw [dropClosing]
  constructor
  · rintro rfl
    split_ifs with hend
    · obtain ⟨text, rfl⟩ := List.isSuffixOf_iff_suffix.mp hend
      rw [htake]
      exact .mark text
    · exact .nothing fun hsuffix => hend (List.isSuffixOf_iff_suffix.mpr hsuffix)
  · rintro (_ | hend)
    · rw [if_pos (List.isSuffixOf_iff_suffix.mpr (List.suffix_append rest _)), htake]
    · rw [if_neg fun hsuffix => hend (List.isSuffixOf_iff_suffix.mp hsuffix)]

theorem dropOpening_eq_iff : dropOpening line = rest ↔ LosesOpening line rest := by
  constructor
  · rintro rfl
    rw [dropOpening.eq_def]
    split
    · rename_i inner
      have hsplit := List.takeWhile_append_dropWhile (p := (· == '*')) (l := inner)
      have hmark : LosesOpening ('/' :: ('*' :: inner.takeWhile (· == '*') ++
          inner.dropWhile (· == '*'))) (dropBlank (inner.dropWhile (· == '*'))) := by
        refine .mark (List.cons_ne_nil _ _) ?_ ?_ (dropBlank_eq_iff.mp rfl)
        · refine List.forall_mem_cons.mpr ⟨rfl, fun c hc => ?_⟩
          simpa using List.mem_takeWhile_imp hc
        · intro hhead
          have hnot := List.head?_dropWhile_not (· == '*') inner
          rw [hhead] at hnot
          exact absurd hnot (by decide)
      rwa [List.cons_append, hsplit] at hmark
    · rename_i hnot
      refine .nothing fun ⟨inner, hinner⟩ => hnot inner hinner.symm
  · rintro (⟨hne, hstars, hhead, hrest⟩ | hstart)
    · rename_i stars text
      obtain ⟨c, more, rfl⟩ := List.exists_cons_of_ne_nil hne
      obtain rfl := hstars c List.mem_cons_self
      have hdrop : (more ++ text).dropWhile (· == '*') = text := by
        refine dropWhile_append_of_forall (fun d hd => ?_) fun d hd => ?_
        · simpa using hstars d (List.mem_cons_of_mem _ hd)
        · simpa using fun hstar : d = '*' => hhead (hstar ▸ hd)
      rw [List.cons_append, dropOpening, hdrop, dropBlank_eq_iff.mpr hrest]
    · rw [dropOpening.eq_def]
      split
      · rename_i inner
        exact absurd ⟨inner, rfl⟩ hstart
      · rfl

theorem dropStar_eq_iff : dropStar line = rest ↔ LosesStar line rest := by
  constructor
  · rintro rfl
    rw [dropStar.eq_def]
    split
    · exact .mark (dropBlank_eq_iff.mp rfl)
    · rename_i hnot
      refine .nothing fun hhead => ?_
      obtain ⟨inner, rfl⟩ := List.head?_eq_some_iff.mp hhead
      exact hnot inner rfl
  · rintro (hrest | hhead)
    · rw [dropStar, dropBlank_eq_iff.mpr hrest]
    · rw [dropStar.eq_def]
      split
      · exact absurd rfl hhead
      · rfl

/-- **What a line says** is what is read from it. -/
theorem says_iff {said : Option (List Char)} : Says line said ↔ commentText? line = said := by
  constructor
  · rintro (hrest | ⟨hline, hclosing, hopening, hstar⟩)
    · obtain rfl := dropBlank_eq_iff.mpr hrest
      rfl
    · have hnot : ¬ isLineComment line := fun h => hline (List.isPrefixOf_iff_prefix.mp h)
      rw [commentText?, if_neg hnot, dropClosing_eq_iff.mpr hclosing,
        dropOpening_eq_iff.mpr hopening, dropStar_eq_iff.mpr hstar]
      simp only [List.isEmpty_iff]
  · rintro rfl
    rw [commentText?]
    split_ifs with hline
    · obtain ⟨text, rfl⟩ := List.isPrefixOf_iff_prefix.mp hline
      exact .line (dropBlank_eq_iff.mp rfl)
    · have hblock := Says.block (fun h => hline (List.isPrefixOf_iff_prefix.mpr h))
        (dropClosing_eq_iff.mp rfl) (dropOpening_eq_iff.mp rfl) (dropStar_eq_iff.mp rfl)
      simpa only [List.isEmpty_iff] using hblock

theorem forall₂_says_iff {run : List Line} {said : List (Option (List Char))} :
    List.Forall₂ Says run said ↔ said = run.map commentText? := by
  induction run generalizing said with
  | nil => rw [List.forall₂_nil_left_iff, List.map_nil]
  | cons line run ih =>
    simp only [List.forall₂_cons_left_iff, says_iff, ih, List.map_cons]
    constructor
    · rintro ⟨_, _, rfl, rfl, rfl⟩
      rfl
    · rintro rfl
      exact ⟨_, _, rfl, rfl, rfl⟩

/-! ### The run -/

/-- A trimmed line with the form of a line comment, or of a part of a block comment. -/
def IsCommentLine (line : Line) : Prop :=
  ['/', '/'] <+: line ∨ ['/', '*'] <+: line ∨ ['*'] <+: line ∨ ['*', '/'] <:+ line

instance (line : Line) : Decidable (IsCommentLine line) :=
  inferInstanceAs (Decidable (_ ∨ _ ∨ _ ∨ _))

/-- How many blank lines are passed before the run: one, if the nearest line is blank. -/
def bridged (above : List Line) : Nat :=
  if above.head?.map trim = some [] then 1 else 0

/-- The trimmed lines of the run, nearest first. -/
def docLines (above : List Line) : List Line :=
  ((above.drop (bridged above)).map trim).takeWhile (IsCommentLine ·)

/-- How many of the nearest lines a documentation takes in. -/
def docReach (above : List Line) : Nat :=
  bridged above + (docLines above).length

/-- The documentation made of some texts: single spaces between them, and no white space around. -/
def docOf (texts : List (List Char)) : Option (List Char) :=
  let text := trim ([' '].intercalate texts)
  if text = [] then none else some text

theorem not_isCommentLine_nil : ¬ IsCommentLine [] := by
  decide

theorem isCommentLine_iff : (isLineComment line || isBlockComment line) ↔ IsCommentLine line := by
  simp only [isLineComment, isBlockComment, Bool.or_eq_true, List.isPrefixOf_iff_prefix,
    List.isSuffixOf_iff_suffix, IsCommentLine, or_assoc]

/-- Once a line has been passed, a walk goes on over comment lines only. -/
theorem commentRun_of_ne_starting {walk : Walk} (hwalk : walk ≠ .starting) (above : List Line) :
    commentRun walk above =
      ((above.map trim).takeWhile (IsCommentLine ·)).reverse.filterMap commentText? := by
  induction above generalizing walk with
  | nil => rfl
  | cons line above ih =>
    rw [commentRun, List.map_cons]
    by_cases hcomment : IsCommentLine (trim line)
    · have hne : (trim line).isEmpty = false := by
        rw [List.isEmpty_eq_false_iff]
        intro hnil
        exact not_isCommentLine_nil (hnil ▸ hcomment)
      rw [List.takeWhile_cons_of_pos (by simpa using hcomment), List.reverse_cons,
        List.filterMap_append, ← ih (by decide : Walk.inRun ≠ .starting)]
      simp only [hne, Bool.false_eq_true, if_false, isCommentLine_iff.mpr hcomment, if_true]
      rfl
    · rw [List.takeWhile_cons_of_neg (by simpa using hcomment)]
      simp [hwalk, mt isCommentLine_iff.mp hcomment]

/-- **The run**: a walk collects what the lines of the run say, in source order. -/
theorem commentRun_starting (above : List Line) :
    commentRun .starting above = (docLines above).reverse.filterMap commentText? := by
  rcases above with _ | ⟨line, above⟩
  · rfl
  · by_cases hblank : trim line = []
    · have hone : bridged (line :: above) = 1 := by simp [bridged, hblank]
      rw [docLines, hone, List.drop_one, List.tail_cons, commentRun]
      simp only [hblank, List.isEmpty_nil, if_true]
      exact commentRun_of_ne_starting (by decide) above
    · have hzero : bridged (line :: above) = 0 := by simp [bridged, hblank]
      -- without a blank line to pass, it does not matter whether the walk has begun
      have hwalk : commentRun .starting (line :: above) = commentRun .inRun (line :: above) := by
        rw [commentRun, commentRun]
        simp [hblank]
      rw [docLines, hzero, List.drop_zero, hwalk, commentRun_of_ne_starting (by decide)]

theorem documentation_eq (above : List Line) :
    documentation above = docOf ((docLines above).reverse.filterMap commentText?) := by
  rw [documentation, docOf, commentRun_starting]
  simp only [List.isEmpty_iff]

/-- The lines of the run are the same when nothing but the nearest lines is left. -/
theorem docLines_take {above : List Line} {k : Nat} (hk : docReach above ≤ k) :
    docLines (above.take k) = docLines above := by
  have hbridged : bridged (above.take k) = bridged above := by
    rcases k with _ | k
    · have hzero : bridged above = 0 := by rw [docReach] at hk; omega
      rw [List.take_zero, hzero]
      rfl
    · rw [bridged, bridged, List.head?_take, if_neg (Nat.succ_ne_zero k)]
  have hlength : (docLines above).length ≤ k - bridged above := by
    rw [docReach] at hk
    omega
  rw [docLines, hbridged, List.drop_take, List.map_take, ← List.take_takeWhile]
  exact List.take_of_length_le hlength

/-! ### The documentation -/

/-- The documentation at a position is that of the lines above it. -/
theorem documentationAt?_natCast {lines : List Line} {position : Nat}
    (hposition : position ≤ lines.length) :
    documentationAt? lines position = some (documentation (lines.take position).reverse) := by
  rw [documentationAt?]
  rcases Nat.eq_zero_or_pos position with rfl | hpos
  · rw [if_pos (by omega), List.take_zero]
    rfl
  · rw [if_neg (by omega), if_pos (by omega), Int.toNat_natCast]

/-- **Documentation**: it is made of what the lines of the run above a position say, each line
saying one thing at most. The lines above the run could as well not be there. Two blank lines, or a
line that is neither blank nor a comment, leave nothing to say. -/
theorem documentationAt?_of_docLines (lines : List Line) (position : Nat)
    (hposition : position ≤ lines.length) :
    let above := (lines.take position).reverse
    (∃ said, (∀ said', List.Forall₂ Says (docLines above).reverse said' ↔ said' = said) ∧
      documentationAt? lines position = some (docOf said.reduceOption)) ∧
    (∀ k, docReach above ≤ k → k ≤ position →
      documentationAt? (lines.drop (position - k)) k = documentationAt? lines position) ∧
    (∀ nearest next far, above = nearest :: next :: far → trim nearest = [] → trim next = [] →
      documentationAt? lines position = some none) ∧
    ∀ nearest far, above = nearest :: far → trim nearest ≠ [] → ¬ IsCommentLine (trim nearest) →
      documentationAt? lines position = some none := by
  intro above
  have hdoc : documentationAt? lines position =
      some (docOf ((docLines above).reverse.filterMap commentText?)) := by
    rw [documentationAt?_natCast hposition, documentation_eq]
  have hnone : docLines above = [] → documentationAt? lines position = some none := by
    intro hnil
    rw [hdoc, hnil]
    rfl
  refine ⟨⟨(docLines above).reverse.map commentText?, fun said' => ?_, ?_⟩, ?_, ?_, ?_⟩
  · exact forall₂_says_iff
  · rw [hdoc, List.reduceOption, List.filterMap_map]
    rfl
  · intro k hreach hk
    have hlength : k ≤ (lines.drop (position - k)).length := by
      rw [List.length_drop]
      omega
    have hnear : above.take k = ((lines.drop (position - k)).take k).reverse := by
      rw [List.take_reverse, List.length_take_of_le hposition, List.drop_take,
        Nat.sub_sub_self hk]
    rw [hdoc, documentationAt?_natCast hlength, documentation_eq, ← hnear, docLines_take hreach]
  · intro nearest next far habove hnearest hnext
    refine hnone ?_
    rw [docLines, habove]
    simp [bridged, hnearest, hnext, not_isCommentLine_nil]
  · intro nearest far habove hnearest hform
    refine hnone ?_
    rw [docLines, habove]
    simp [bridged, hnearest, hform]

/-- A block comment and a line comment above a blank line, with a line of code above them. -/
theorem documentationAt?_of_docLines_of_three_comments :
    let lines := ["x := 1".toList, "/** One".toList, "\t* two */ ".toList, "//three".toList, [],
      "func F()".toList]
    documentationAt? lines 5 = some (some "One two three".toList) ∧
      documentationAt? (lines.drop 1) 4 = some (some "One two three".toList) := by
  intro lines
  obtain ⟨⟨said, hsaid, hdoc⟩, hcut, -⟩ := documentationAt?_of_docLines lines 5 (by decide)
  have hlines : [some "One".toList, some "two".toList, some "three".toList] = said :=
    (hsaid _).mp (forall₂_says_iff.mpr (by decide +kernel))
  rw [← hlines] at hdoc
  have hthree : documentationAt? lines 5 = some (some "One two three".toList) :=
    hdoc.trans (by decide +kernel)
  exact ⟨hthree, (hcut 4 (by decide +kernel) (by decide)).trans hthree⟩

end GoIndex.Source
