import Mathlib.Data.List.Infix
import GoIndex.Text.Lower

/-!
# Lower case of ASCII stretches

Lower-casing looks around only for one letter beyond ASCII. An ASCII stretch is therefore mapped
letter by letter and in place, whatever stands around it (`lowerFrom_append_of_ascii`), so that its
lower case is found again in the lower case of every text that holds it (`isInfix_lowerChars`).
-/

namespace GoIndex.Text

/-- Whether all characters of a text are ASCII. -/
def isAscii (text : List Char) : Bool :=
  text.all (·.toNat < 128)

theorem lowerChar_of_ascii {c : Char} (h : c.toNat < 128) (before after : List Char) :
    lowerChar before c after = [c.toLower] :=
  if_pos h

/-- The lower case of the end of a text ends the lower case of the text. -/
theorem isSuffix_lowerFrom (before front rest : List Char) :
    lowerFrom (front.reverse ++ before) rest <:+ lowerFrom before (front ++ rest) := by
  induction front generalizing before with
  | nil => exact List.suffix_refl _
  | cons c front ih =>
    have hrest := ih (c :: before)
    rw [List.cons_append, lowerFrom_cons, List.reverse_cons, List.append_assoc,
      List.singleton_append]
    exact hrest.trans (List.suffix_append _ _)

/-- **ASCII in place**: an ASCII stretch is lower-cased letter by letter, whatever stands before it
and behind it. -/
theorem lowerFrom_append_of_ascii {stretch : List Char} (h : isAscii stretch)
    (before rest : List Char) :
    lowerFrom before (stretch ++ rest) =
      stretch.map Char.toLower ++ lowerFrom (stretch.reverse ++ before) rest := by
  induction stretch generalizing before with
  | nil => rfl
  | cons c stretch ih =>
    rw [isAscii, List.all_cons, Bool.and_eq_true, decide_eq_true_eq] at h
    obtain ⟨hc, hstretch⟩ := h
    rw [List.cons_append, lowerFrom_cons, lowerChar_of_ascii hc, ih hstretch, List.map_cons,
      List.reverse_cons, List.append_assoc, List.singleton_append, List.singleton_append,
      List.cons_append]

/-- An ASCII text is lower-cased letter by letter. -/
theorem lowerChars_of_ascii {text : List Char} (h : isAscii text) :
    lowerChars text = text.map Char.toLower := by
  have htext := lowerFrom_append_of_ascii h [] []
  rwa [List.append_nil, lowerFrom_nil, List.append_nil] at htext

/-- The lower case of an ASCII stretch of a text is a stretch of the lower case of the text. -/
theorem isInfix_lowerChars {stretch text : List Char} (h : isAscii stretch)
    (hstretch : stretch <:+: text) : lowerChars stretch <:+: lowerChars text := by
  obtain ⟨front, back, rfl⟩ := hstretch
  have hsuffix := isSuffix_lowerFrom [] front (stretch ++ back)
  rw [lowerFrom_append_of_ascii h] at hsuffix
  rw [lowerChars_of_ascii h, lowerChars, List.append_assoc]
  exact (List.prefix_append _ _).isInfix.trans hsuffix.isInfix

end GoIndex.Text
