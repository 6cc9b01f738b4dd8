import GoIndex.Command.Platform
import GoIndex.Proofs.Data.Json

/-!
# What is expected of a console

A console is no part of a run, so what is said about a run is said for every console, as far as it
keeps what consoles promise:

* a text that spells a JSON value is written so that it spells the same value
  (`Console.WritesJson`);
* a message that begins with a letter is written with that letter in front
  (`Console.KeepsFirstLetter`);
* a message of one line without markup is written as it is (`Console.WritesPlain`).

The console that reads markup keeps all three of them, the last for lines of any width.
-/

namespace GoIndex

open Data Text

namespace Text.Markup

/-! ### Messages without markup -/

/-- A printable character of ASCII that has no part in markup. A bracket begins a tag, and a colon
the name of a picture. -/
def isPlain (c : Char) : Bool :=
  ' ' ≤ c && c ≤ '~' && c != '[' && c != ':'

theorem isShown_of_isPlain {c : Char} (h : isPlain c) : isShown c := by
  simp only [isPlain, Bool.and_eq_true, decide_eq_true_eq] at h
  have hprintable : 32 ≤ c.toNat := h.1.1.1
  simp only [isShown, Bool.not_eq_true', Bool.or_eq_false_iff, beq_eq_false_iff_ne,
    Bool.and_eq_false_iff, decide_eq_false_iff_not]
  omega

theorem isShown_of_isAlpha {c : Char} (h : c.isAlpha) : isShown c := by
  have hletter : 65 ≤ c.toNat := by
    rcases Bool.or_eq_true_iff.mp h with hupper | hlower
    · exact (of_decide_eq_true hupper).1
    · have hcode : 97 ≤ c.toNat := of_decide_eq_true (Bool.and_eq_true_iff.mp hlower).1
      omega
  simp only [isShown, Bool.not_eq_true', Bool.or_eq_false_iff, beq_eq_false_iff_ne,
    Bool.and_eq_false_iff, decide_eq_false_iff_not]
  omega

theorem tag?_of_head?_ne {text : List Char} (h : text.head? ≠ some '[') : tag? text = none := by
  unfold tag?
  split
  · exact absurd rfl h
  · rfl

/-- Behind a character that is neither a bracket nor a backslash, all is plain so far. -/
theorem mark?_cons_of_ne {c : Char} {text : List Char} (hbracket : c ≠ '[') (hslash : c ≠ '\\') :
    mark? (c :: text) = none := by
  have hslashes : ((c :: text).takeWhile (· == '\\')).length = 0 := by simp [hslash]
  have htag : tag? (c :: text) = none := tag?_of_head?_ne (by simpa using hbracket)
  simp only [mark?, hslashes, List.drop_zero, htag]
  rfl

theorem mark?_of_not_mem {text : List Char} (h : '[' ∉ text) : mark? text = none := by
  have hhead (n : Nat) : (text.drop n).head? ≠ some '[' := by
    rw [List.head?_drop]
    exact fun hn => h (List.mem_of_getElem? hn)
  have hsecond : (text[1]? == some '[') = false :=
    beq_eq_false_iff_ne.mpr fun hn => h (List.mem_of_getElem? hn)
  simp only [mark?, tag?_of_head?_ne (hhead _), hsecond, Bool.and_false, Bool.false_eq_true,
    if_false]

/-- Without a bracket there is nothing but plain text. -/
theorem read?_of_not_mem {text : List Char} (h : '[' ∉ text) :
    read? text = some (text.filter isShown) := by
  rw [read?]
  -- no mark is found anywhere, so nothing is skipped and no tag is ever open
  induction text with
  | nil => rfl
  | cons c text ih =>
    rw [List.mem_cons, not_or] at h
    have hmark := mark?_of_not_mem (List.not_mem_cons_of_ne_of_not_mem h.1 h.2)
    simp only [pieces, hmark, showPieces, ih h.2, Option.map_some]
    rw [← List.filter_append, List.singleton_append]

theorem read?_of_isPlain {text : List Char} (h : ∀ c ∈ text, isPlain c) :
    read? text = some text := by
  have hbracket : '[' ∉ text := fun hmem => absurd (h _ hmem) (by decide)
  rw [read?_of_not_mem hbracket, List.filter_eq_self.mpr fun c hc => isShown_of_isPlain (h c hc)]

/-- A letter in front stays there. -/
theorem head?_of_read? {c : Char} {text shown : List Char} (hc : c.isAlpha)
    (h : read? (c :: text) = some shown) : shown.head? = some c := by
  have hbracket : c ≠ '[' := by
    rintro rfl
    exact absurd hc (by decide)
  have hslash : c ≠ '\\' := by
    rintro rfl
    exact absurd hc (by decide)
  -- whatever comes behind is shown behind the letter, or nothing is shown at all
  simp only [read?, pieces, mark?_cons_of_ne hbracket hslash, showPieces] at h
  obtain ⟨rest, -, rfl⟩ := Option.map_eq_some_iff.mp h
  simp [isShown_of_isAlpha hc]

end Text.Markup

namespace Command.Console

/-! ### Promises -/

/-- A console that writes JSON as JSON. -/
def WritesJson (console : Console) : Prop :=
  ∀ value text, JsonText value text.toList → JsonText value (console.report text).toList

/-- A console that does not touch a letter at the start of a message. -/
def KeepsFirstLetter (console : Console) : Prop :=
  ∀ (message shown : String) (c : Char), message.toList.head? = some c → c.isAlpha →
    console.message message = .ok shown → shown.toList.head? = some c

/-- A console that writes a message as it is, if it has no markup and fits into a line. -/
def WritesPlain (console : Console) (width : Nat) : Prop :=
  ∀ message : String, (∀ c ∈ message.toList, Markup.isPlain c) → message.length ≤ width →
    console.message message = .ok (message ++ "\n")

/-! ### The console that reads markup -/

theorem message_markup_of_eq_some {text : String} {shown : List Char}
    (h : Markup.read? text.toList = some shown) :
    markup.message text = .ok (String.ofList shown ++ "\n") := by
  simp only [markup, h]

theorem message_markup_of_eq_none {text : String} (h : Markup.read? text.toList = none) :
    markup.message text = .error .strayTag := by
  simp only [markup, h]

theorem writesJson_markup : markup.WritesJson := by
  intro value text htext
  have hend : IsGap ['\n'] := by simp [IsGap]
  simpa [markup] using htext.append_gap hend

theorem keepsFirstLetter_markup : markup.KeepsFirstLetter := by
  intro message shown c hhead hc hshown
  obtain ⟨rest, hmessage⟩ := List.head?_eq_some_iff.mp hhead
  cases hread : Markup.read? message.toList with
  | none =>
    rw [message_markup_of_eq_none hread] at hshown
    cases hshown
  | some found =>
    rw [message_markup_of_eq_some hread] at hshown
    obtain rfl := Except.ok.inj hshown
    rw [hmessage] at hread
    have hfirst := Markup.head?_of_read? hc hread
    rw [String.toList_append, String.toList_ofList, List.head?_append, hfirst, Option.some_or]

theorem writesPlain_markup (width : Nat) : markup.WritesPlain width := by
  intro message hplain _
  rw [message_markup_of_eq_some (Markup.read?_of_isPlain hplain), String.ofList_toList]

end Command.Console

end GoIndex
