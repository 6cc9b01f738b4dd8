import GoIndex.Proofs.Text.Lines
import GoIndex.Text.Integer

/-!
# Which texts are integers

`WritesInteger text negative digits` says what it means for a text to write an integer: white space
around a sign and decimal digits, with single underscores between digits. It sets no bound on the
number of digits. Reading an integer may do so: `readInteger?` reads what is written in as many
digits as are allowed (`readInteger?_eq_some_iff`), and refuses everything else.
-/

namespace GoIndex.Text

/-! ### Written integers -/

/-- How a sign is written, if at all, and whether it is a minus. -/
inductive WritesSign : List Char → Bool → Prop
  | none : WritesSign [] false
  | plus : WritesSign ['+'] false
  | minus : WritesSign ['-'] true

/-- Which texts write an integer, with its sign and its digits. -/
inductive WritesInteger : List Char → Bool → List Nat → Prop
  | written {left sign right : List Char} {groups : List (List Char)} {negative : Bool}
    {digits : List Nat} (hleft : ∀ c ∈ left, isSpace c) (hsign : WritesSign sign negative)
    (hgroups : groups ≠ []) (hgroup : ∀ group ∈ groups, group ≠ [])
    (hdigits : groups.flatten.mapM decimalDigit? = some digits) (hright : ∀ c ∈ right, isSpace c) :
    WritesInteger (left ++ (sign ++ ['_'].intercalate groups) ++ right) negative digits

/-- Whether a text writes an integer, in however many digits. -/
def IsInteger (text : String) : Prop :=
  ∃ negative digits, WritesInteger text.toList negative digits

/-- Whether a text writes an integer in as many digits as are allowed. -/
def IsReadableInteger (limit : Option Nat) (text : String) : Prop :=
  ∃ negative digits, WritesInteger text.toList negative digits ∧ allowsDigits limit digits.length

/-! ### Digits -/

/-- No digit is white space: the digits of each script stand apart from it. -/
theorem isSpace_of_isSome_decimalDigit? {c : Char} (h : (decimalDigit? c).isSome) :
    isSpace c = false := by
  have hapart : ∀ start ∈ decimalZeros.toList, ∀ k < 10,
      isSpace (Char.ofNat (start + k)) = false := by
    decide
  rw [decimalDigit?, Option.isSome_map] at h
  obtain ⟨start, hstart⟩ := Option.isSome_iff_exists.mp h
  have hmem := Array.mem_of_find?_eq_some hstart
  have hrange := Array.find?_some hstart
  simp only [Bool.and_eq_true, decide_eq_true_eq] at hrange
  have hc := hapart start (by simpa using hmem) (c.toNat - start) (by omega)
  rwa [Nat.add_sub_cancel' hrange.1, Char.ofNat_toNat] at hc

theorem isSome_of_mapM_eq_some {α β : Type} {f : α → Option β} {items : List α} {values : List β}
    (h : items.mapM f = some values) : ∀ item ∈ items, (f item).isSome := by
  induction items generalizing values with
  | nil => nofun
  | cons item items ih =>
    rw [List.mapM_cons, Option.bind_eq_bind, Option.bind_eq_some_iff] at h
    obtain ⟨value, hvalue, h⟩ := h
    rw [Option.bind_eq_bind, Option.bind_eq_some_iff] at h
    obtain ⟨rest, hrest, -⟩ := h
    exact List.forall_mem_cons.mpr ⟨by rw [hvalue]; rfl, ih hrest⟩

/-- The digits of groups with single underscores between them are those of the groups. -/
theorem digitsOf?_intercalate {groups : List (List Char)} {digits : List Nat}
    (hgroups : groups ≠ []) (hgroup : ∀ group ∈ groups, group ≠ [])
    (hdigits : groups.flatten.mapM decimalDigit? = some digits) :
    digitsOf? decimalDigit? (['_'].intercalate groups) = some digits := by
  have hmark : ∀ group ∈ groups, '_' ∉ group := by
    intro group hmem hc
    have hsome := isSome_of_mapM_eq_some hdigits '_' (List.mem_flatten.mpr ⟨group, hmem, hc⟩)
    exact absurd hsome (by decide)
  have hany : groups.any (·.isEmpty) = false := by simpa using hgroup
  simp only [digitsOf?, List.splitOn_intercalate '_' hmark hgroups, hany, hdigits,
    Bool.false_eq_true, if_false]

theorem exists_groups_of_digitsOf? {text : List Char} {digits : List Nat}
    (h : digitsOf? decimalDigit? text = some digits) :
    ∃ groups : List (List Char), groups ≠ [] ∧ (∀ group ∈ groups, group ≠ []) ∧
      groups.flatten.mapM decimalDigit? = some digits ∧ text = ['_'].intercalate groups := by
  simp only [digitsOf?] at h
  split at h
  · cases h
  · next hany =>
    refine ⟨text.splitOn '_', List.splitOn_ne_nil _ _, ?_, h, (List.intercalate_splitOn '_').symm⟩
    rintro group hmem rfl
    exact hany (List.any_eq_true.mpr ⟨[], hmem, rfl⟩)

/-! ### Signs -/

theorem splitSign_append {sign : List Char} {negative : Bool} (hsign : WritesSign sign negative)
    {text : List Char} (htext : ∀ c ∈ text.head?, (decimalDigit? c).isSome) :
    splitSign (sign ++ text) = (negative, text) := by
  cases hsign with
  | none =>
    rw [List.nil_append, splitSign.eq_3]
    · rintro rest rfl
      exact absurd (htext '-' rfl) (by decide)
    · rintro rest rfl
      exact absurd (htext '+' rfl) (by decide)
  | plus => rfl
  | minus => rfl

theorem writesSign_splitSign (text : List Char) :
    ∃ sign, WritesSign sign (splitSign text).1 ∧ text = sign ++ (splitSign text).2 := by
  fun_cases splitSign text with
  | case1 rest => exact ⟨['-'], .minus, rfl⟩
  | case2 rest => exact ⟨['+'], .plus, rfl⟩
  | case3 => exact ⟨[], .none, rfl⟩

/-! ### Reading -/

section Reading

variable {limit : Option Nat} {text : String} {value : Int}

/-- A written integer is read unless it has too many digits. -/
theorem readInteger?_of_writes {negative : Bool} {digits : List Nat}
    (h : WritesInteger text.toList negative digits) :
    readInteger? limit text =
      if allowsDigits limit digits.length then some (signed negative (ofDigits 10 digits))
      else none := by
  generalize htext : text.toList = chars at h
  obtain ⟨hleft, hsign, hgroups, hgroup, hdigits, hright⟩ := h
  rename_i left sign right groups
  have hdigit := isSome_of_mapM_eq_some hdigits
  -- nothing from the sign to the last digit is white space, so trimming leaves just that
  have hmiddle : ∀ c ∈ sign ++ ['_'].intercalate groups, isSpace c = false := by
    intro c hc
    obtain hc | hc := List.mem_append.mp hc
    · cases hsign <;> simp_all <;> decide
    · obtain rfl | hc := mem_intercalate_singleton hc
      · decide
      · exact isSpace_of_isSome_decimalDigit? (hdigit c hc)
  -- and no digit is a sign, so the sign is cut off where it ends
  have hhead : ∀ c ∈ (['_'].intercalate groups).head?, (decimalDigit? c).isSome := by
    intro c hc
    obtain ⟨first, others, rfl⟩ := List.exists_cons_of_ne_nil hgroups
    obtain ⟨d, rest, rfl⟩ := List.exists_cons_of_ne_nil (hgroup first List.mem_cons_self)
    have hd := hdigit d (by simp)
    cases others <;> simp_all
  rw [readInteger?, htext, trimRightOf_trimLeftOf_append hleft hmiddle hright,
    splitSign_append hsign hhead]
  simp only [digitsOf?_intercalate hgroups hgroup hdigits]

theorem writesInteger_of_readInteger? (h : readInteger? limit text = some value) :
    ∃ negative digits, WritesInteger text.toList negative digits ∧
      allowsDigits limit digits.length ∧ value = signed negative (ofDigits 10 digits) := by
  obtain ⟨left, right, hleft, hright, htext⟩ := exists_append_trim isSpace text.toList
  obtain ⟨sign, hsign, hcore⟩ :=
    writesSign_splitSign (trimRightOf isSpace (trimLeftOf isSpace text.toList))
  simp only [readInteger?] at h
  generalize splitSign (trimRightOf isSpace (trimLeftOf isSpace text.toList)) = parts at *
  split at h
  · next digits hdigits =>
    obtain ⟨groups, hgroups, hgroup, hmapM, hrest⟩ := exists_groups_of_digitsOf? hdigits
    split at h
    · next hlength =>
      refine ⟨parts.1, digits, ?_, hlength, (Option.some.inj h).symm⟩
      rw [htext, hcore, hrest]
      exact .written hleft hsign hgroups hgroup hmapM hright
    · cases h
  · cases h

/-- An integer is read exactly from the texts that write it in as many digits as are allowed. -/
theorem readInteger?_eq_some_iff :
    readInteger? limit text = some value ↔
      ∃ negative digits, WritesInteger text.toList negative digits ∧
        allowsDigits limit digits.length ∧ value = signed negative (ofDigits 10 digits) := by
  refine ⟨writesInteger_of_readInteger?, ?_⟩
  rintro ⟨negative, digits, hwrites, hlength, rfl⟩
  rw [readInteger?_of_writes hwrites, if_pos hlength]

theorem readInteger?_eq_none_iff :
    readInteger? limit text = none ↔ ¬ IsReadableInteger limit text := by
  rw [Option.eq_none_iff_forall_ne_some]
  constructor
  · rintro hnone ⟨negative, digits, hwrites, hlength⟩
    exact hnone _ (readInteger?_eq_some_iff.mpr ⟨negative, digits, hwrites, hlength, rfl⟩)
  · intro hunreadable value hread
    obtain ⟨negative, digits, hwrites, hlength, -⟩ := readInteger?_eq_some_iff.mp hread
    exact hunreadable ⟨negative, digits, hwrites, hlength⟩

end Reading

/-- The numeral of a digit that is written several times. -/
theorem writesInteger_replicate {c : Char} {digit count : Nat} (hc : decimalDigit? c = some digit)
    (hcount : count ≠ 0) :
    WritesInteger (List.replicate count c) false (List.replicate count digit) := by
  have hdigits :
      (List.replicate count c).mapM decimalDigit? = some (List.replicate count digit) := by
    clear hcount
    induction count with
    | zero => rfl
    | succ count ih => simp [List.replicate_succ, List.mapM_cons, hc, ih]
  have h : WritesInteger ([] ++ ([] ++ ['_'].intercalate [List.replicate count c]) ++ []) false
      (List.replicate count digit) :=
    .written nofun .none (by simp) (by simpa using hcount) (by simpa using hdigits) nofun
  simpa using h

end GoIndex.Text
