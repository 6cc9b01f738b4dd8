import GoIndex.Proofs.Text.Trim
import GoIndex.Text.Word

/-!
# Words

White space is no part of a word (`isWord_of_isBlank`): the tables of the two classes have no
character in common.

A text stands **as a word** in a line when the line has it somewhere with no word character right
before or behind it (`StandsAsWord`). It does so behind any character that is not of a word
(`standsAsWord_append`), and it does not when it is only the beginning of a word and its first
letter stands nowhere else (`not_standsAsWord_append`).
-/

namespace GoIndex.Text

/-! ### Classes of characters -/

/-- White space is no part of a word. -/
theorem isWord_of_isBlank {c : Char} (h : isBlank c) : isWord c = false := by
  have hapart : ∀ range ∈ wordRanges.toList, ∀ blanks ∈ [(0x85, 0x85), (0xa0, 0xa0),
      (0x1680, 0x1680), (0x2000, 0x200a), (0x2028, 0x2029), (0x202f, 0x202f), (0x205f, 0x205f),
      (0x3000, 0x3000)], range.2 < blanks.1 ∨ blanks.2 < range.1 := by
    decide +kernel
  simp only [isBlank, isSpace, Bool.or_eq_true, Bool.and_eq_true, decide_eq_true_eq,
    beq_iff_eq] at h
  by_cases hlt : c.toNat < 128
  · have hascii : ∀ n < 33, Char.isAlphanum (Char.ofNat n) = false ∧ Char.ofNat n ≠ '_' := by
      decide
    obtain ⟨halphanum, hunder⟩ := hascii c.toNat (by omega)
    rw [Char.ofNat_toNat] at halphanum hunder
    simp [isWord, hlt, halphanum, hunder]
  · rw [isWord, if_neg hlt, Ranges.holds, ← Array.any_toList, List.any_eq_false]
    intro range hrange hholds
    simp only [Bool.and_eq_true, decide_eq_true_eq] at hholds
    have hout := hapart range hrange
    simp only [List.forall_mem_cons, List.not_mem_nil, false_implies, implies_true,
      and_true] at hout
    omega

theorem isBlank_of_isWord {c : Char} (h : isWord c) : isBlank c = false := by
  rw [Bool.eq_false_iff]
  intro hblank
  rw [isWord_of_isBlank hblank] at h
  cases h

theorem isAlpha_of_isCapital {c : Char} (h : isCapital c) : c.isAlpha := by
  have hle : 'A' ≤ c ∧ c ≤ 'Z' := by simpa [isCapital] using h
  have hupper : c.isUpper := decide_eq_true hle
  exact (Bool.or_eq_true c.isUpper c.isLower).mpr (.inl hupper)

theorem isNameStart_of_isCapital {c : Char} (h : isCapital c) : isNameStart c := by
  rw [isNameStart, isAlpha_of_isCapital h, Bool.true_or]

/-- The first letter of a name is of a word. -/
theorem isWord_of_isNameStart {c : Char} (h : isNameStart c) : isWord c := by
  rcases (Bool.or_eq_true _ _).mp h with halpha | hunder
  · have hcase : c.isUpper ∨ c.isLower := (Bool.or_eq_true _ _).mp halpha
    have hlt : c.toNat < 128 := by
      rcases hcase with hupper | hlower
      · have hle : c.toNat ≤ 90 := (of_decide_eq_true hupper).2
        omega
      · have hle : c.toNat ≤ 122 := of_decide_eq_true ((Bool.and_eq_true _ _).mp hlower).2
        omega
    have halphanum : c.isAlphanum := (Bool.or_eq_true _ _).mpr (.inl halpha)
    rw [isWord, if_pos hlt, halphanum, Bool.true_or]
  · obtain rfl := eq_of_beq hunder
    decide

theorem isWord_of_isCapital {c : Char} (h : isCapital c) : isWord c :=
  isWord_of_isNameStart (isNameStart_of_isCapital h)

/-! ### Whole words -/

/-- The text stands somewhere in the line, with no word character right before or behind it. -/
def StandsAsWord (name line : List Char) : Prop :=
  ∃ before behind, line = before ++ (name ++ behind) ∧
    (∀ c ∈ before.getLast?, isWord c = false) ∧ ∀ c ∈ behind.head?, isWord c = false

variable {name : List Char}

theorem StandsAsWord.isInfix {line : List Char} (h : StandsAsWord name line) : name <:+: line := by
  obtain ⟨before, behind, rfl, -, -⟩ := h
  exact ⟨before, behind, by rw [List.append_assoc]⟩

/-- Behind characters that are not of a word, a text stands as a word. -/
theorem standsAsWord_append {pad behind : List Char} (front : List Char) (hpad : pad ≠ [])
    (hword : ∀ c ∈ pad, isWord c = false) (hbehind : ∀ c ∈ behind.head?, isWord c = false) :
    StandsAsWord name (front ++ (pad ++ (name ++ behind))) := by
  refine ⟨front ++ pad, behind, by rw [List.append_assoc], fun c hc => ?_, hbehind⟩
  rw [List.getLast?_append_of_ne_nil _ hpad] at hc
  exact hword c (List.mem_of_getLast? hc)

/-- **Cut short**: the beginning of a word is no word, unless it stands once more in front of it. -/
theorem not_standsAsWord_append {front more : List Char} (hname : name ≠ []) (hmore : more ≠ [])
    (hfront : ∀ c ∈ front, name.head? ≠ some c) (hword : ∀ c ∈ name ++ more, isWord c) :
    ¬ StandsAsWord name (front ++ (name ++ more)) := by
  rintro ⟨before, behind, heq, hbefore, hbehind⟩
  -- at the same place, what is left of the word would stand behind
  have hsame : more ≠ behind := by
    rintro rfl
    obtain ⟨c, rest, rfl⟩ := List.exists_cons_of_ne_nil hmore
    have hc : isWord c = true := hword c (by simp)
    rw [hbehind c rfl] at hc
    cases hc
  rcases List.append_eq_append_iff.mp heq with ⟨mid, rfl, hmid⟩ | ⟨mid, rfl, hmid⟩
  · rcases List.eq_nil_or_concat mid with rfl | ⟨start, c, rfl⟩
    · exact hsame (List.append_cancel_left hmid)
    · -- further on, a letter of the word would stand before
      have hc : isWord c = true := hword c (by rw [hmid]; simp)
      rw [hbefore c (by simp)] at hc
      cases hc
  · rcases mid with _ | ⟨c, mid⟩
    · exact hsame (List.append_cancel_left hmid).symm
    · -- further in front, the first letter would stand there
      refine hfront c (by simp) ?_
      obtain ⟨d, rest, rfl⟩ := List.exists_cons_of_ne_nil hname
      have hhead := congrArg List.head? hmid
      simpa using hhead

end GoIndex.Text
