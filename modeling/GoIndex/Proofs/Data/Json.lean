import GoIndex.Data.Json
import GoIndex.Data.Yaml.Tag

/-!
# JSON texts and their values

`Spells value text` is the grammar of JSON, read as a relation between values and texts: white space
may stand around every value, key and item, a character of a string may be written in several ways,
and an integer has no zeros in front. `JsonText value text` is a value with nothing but white space
around it.

The grammar has words for null, truth values, integers, texts, lists, and maps whose keys are texts.
A value is **plain** when it is made of nothing else, and the printed form of a plain value is a
text of that value, in every layout and at every depth (`Value.Plain.spells`).
-/

namespace GoIndex.Data

open Text

/-! ### Scalars -/

/-- White space between the parts of a JSON text. -/
def IsGap (text : List Char) : Prop :=
  ∀ c ∈ text, c = ' ' ∨ c = '\n' ∨ c = '\r' ∨ c = '\t'

theorem isGap_nil : IsGap [] :=
  nofun

/-- The characters that have a short escape, with the mark that stands behind the backslash. -/
def shortEscapes : List (Char × Char) :=
  [('"', '"'), ('\\', '\\'), ('/', '/'), ('\x08', 'b'), ('\x0c', 'f'), ('\n', 'n'), ('\r', 'r'),
    ('\t', 't')]

/-- How a character may be written in a string: as it is, by a short escape, or by its code in four
hexadecimal digits. -/
inductive SpellsChar : Char → List Char → Prop
  | plain {c : Char} (hcode : 0x20 ≤ c.toNat) (hquote : c ≠ '"') (hslash : c ≠ '\\') :
    SpellsChar c [c]
  | short {c mark : Char} (h : (c, mark) ∈ shortEscapes) : SpellsChar c ['\\', mark]
  | code {c : Char} {digits : List Char} {values : List Nat} (hlength : digits.length = 4)
    (hdigits : digits.mapM Yaml.hexDigit? = some values) (hcode : ofDigits 16 values = c.toNat) :
    SpellsChar c ('\\' :: 'u' :: digits)

/-- How characters may be written one after the other. -/
inductive SpellsChars : List Char → List Char → Prop
  | nil : SpellsChars [] []
  | cons {c : Char} {chars text rest : List Char} (h : SpellsChar c text)
    (hrest : SpellsChars chars rest) : SpellsChars (c :: chars) (text ++ rest)

/-- How a string may be written: between quotes. -/
inductive SpellsString : String → List Char → Prop
  | quoted {s : String} {inner : List Char} (h : SpellsChars s.toList inner) :
    SpellsString s ('"' :: inner ++ ['"'])

/-- How a natural number is written: in decimal digits, without zeros in front. -/
structure SpellsNat (n : Nat) (text : List Char) : Prop where
  digits : ∀ c ∈ text, c.isDigit
  value : Nat.ofDigitChars 10 text 0 = n
  nonempty : text ≠ []
  front : text.head? = some '0' → text = ['0']

/-- How an integer is written: a negative one has a minus in front. -/
inductive SpellsInt : Int → List Char → Prop
  | natural {n : Nat} {text : List Char} (h : SpellsNat n text) : SpellsInt n text
  | negative {n : Nat} {text : List Char} (h : SpellsNat n text) : SpellsInt (-n) ('-' :: text)

/-! ### Values -/

mutual

/-- The texts of a value. -/
inductive Spells : Value → List Char → Prop
  | null : Spells .null "null".toList
  | true : Spells (.bool true) "true".toList
  | false : Spells (.bool false) "false".toList
  | int {n : Int} {text : List Char} (h : SpellsInt n text) : Spells (.int n) text
  | text {s : String} {text : List Char} (h : SpellsString s text) : Spells (.text s) text
  | list {items : List Value} {inner : List Char} (h : SpellsItems items inner) :
    Spells (.list items) ('[' :: inner ++ [']'])
  | map {entries : Entries} {inner : List Char} (h : SpellsEntries entries inner) :
    Spells (.map entries) ('{' :: inner ++ ['}'])

/-- The texts of a value with white space around it. -/
inductive JsonText : Value → List Char → Prop
  | padded {value : Value} {left text right : List Char} (hleft : IsGap left)
    (h : Spells value text) (hright : IsGap right) : JsonText value (left ++ text ++ right)

/-- The texts of items, with commas between them. -/
inductive SpellsItems : List Value → List Char → Prop
  | nil {gap : List Char} (h : IsGap gap) : SpellsItems [] gap
  | single {item : Value} {text : List Char} (h : JsonText item text) : SpellsItems [item] text
  | cons {item next : Value} {items : List Value} {text rest : List Char} (h : JsonText item text)
    (hrest : SpellsItems (next :: items) rest) :
    SpellsItems (item :: next :: items) (text ++ ',' :: rest)

/-- The texts of entries, with colons behind their keys and commas between them. -/
inductive SpellsEntries : Entries → List Char → Prop
  | nil {gap : List Char} (h : IsGap gap) : SpellsEntries [] gap
  | single {key : String} {value : Value} {name text : List Char}
    (hkey : JsonText (.text key) name) (h : JsonText value text) :
    SpellsEntries [(.text key, value)] (name ++ ':' :: text)
  | cons {key : String} {value : Value} {next : Scalar × Value} {entries : Entries}
    {name text rest : List Char} (hkey : JsonText (.text key) name) (h : JsonText value text)
    (hrest : SpellsEntries (next :: entries) rest) :
    SpellsEntries ((.text key, value) :: next :: entries) (name ++ ':' :: text ++ ',' :: rest)

end

/-- White space behind a JSON text is part of it. -/
theorem JsonText.append_gap {value : Value} {text gap : List Char} (h : JsonText value text)
    (hgap : IsGap gap) : JsonText value (text ++ gap) := by
  obtain ⟨hleft, hspells, hright⟩ := h
  rw [List.append_assoc]
  exact .padded hleft hspells fun c hc => (List.mem_append.mp hc).elim (hright c) (hgap c)

/-! ### Printed scalars -/

theorem spellsChar_jsonChar (c : Char) : SpellsChar c (jsonChar c) := by
  have hcodes : ∀ n < 0x20, (hexDigits 4 n).length = 4 ∧
      ((hexDigits 4 n).mapM Yaml.hexDigit?).map (ofDigits 16) = some n := by
    decide
  rw [jsonChar]
  simp only [beq_iff_eq]
  repeat' split
  any_goals
    subst c
    exact .short (by decide)
  · rename_i hcontrol
    obtain ⟨hlength, hvalue⟩ := hcodes c.toNat hcontrol
    obtain ⟨values, hdigits, hcode⟩ := Option.map_eq_some_iff.mp hvalue
    exact .code hlength hdigits hcode
  · rename_i hquote hslash _ _ _ _ _ hcontrol
    exact .plain (Nat.le_of_not_lt hcontrol) hquote hslash

theorem spellsChars_flatMap (chars : List Char) : SpellsChars chars (chars.flatMap jsonChar) := by
  induction chars with
  | nil => exact .nil
  | cons c chars ih => exact .cons (spellsChar_jsonChar c) ih

theorem spellsString_jsonString (s : String) :
    SpellsString s (jsonString (.ofString s)).toList := by
  have hletters : (Letters.ofString s).flatMap jsonLetter = s.toList.flatMap jsonChar := by
    rw [Letters.ofString, Letters.ofChars, List.flatMap_map]
    rfl
  rw [jsonString, String.toList_ofList, hletters]
  exact .quoted (spellsChars_flatMap _)

/-- The first digit of a positive number is not zero. -/
theorem head?_toDigits_ne {n : Nat} (h : 0 < n) : (Nat.toDigits 10 n).head? ≠ some '0' := by
  induction n using Nat.strongRecOn with
  | ind n ih =>
    rw [Nat.toDigits_eq_if (by decide)]
    split
    · rw [List.head?_cons, ne_eq, Option.some.injEq, Nat.digitChar_eq_zero]
      omega
    · have hfront : (Nat.toDigits 10 (n / 10)).head?.isSome := by simp
      rw [List.head?_append, Option.or_of_isSome hfront]
      exact ih (n / 10) (by omega) (by omega)

theorem spellsNat_toDigits (n : Nat) : SpellsNat n (Nat.toDigits 10 n) where
  digits c hc := Nat.isDigit_of_mem_toDigits (by decide) (by decide) hc
  value := Nat.ofDigitChars_toDigits (by decide) (by decide)
  nonempty := Nat.toDigits_ne_nil
  front hzero := by
    cases n with
    | zero => exact Nat.toDigits_zero 10
    | succ n => exact absurd hzero (head?_toDigits_ne n.succ_pos)

theorem spellsInt_toString (n : Int) : SpellsInt n (toString n).toList := by
  rw [Int.toString_eq_repr]
  cases n with
  | ofNat n =>
    rw [Int.repr, Nat.toList_repr]
    exact .natural (spellsNat_toDigits n)
  | negSucc n =>
    rw [Int.repr, String.toList_append, Nat.toList_repr]
    exact .negative (spellsNat_toDigits (n + 1))

/-! ### Printed values -/

/-- Values that JSON has words for. -/
inductive Value.Plain : Value → Prop
  | null : Plain .null
  | bool (b : Bool) : Plain (.bool b)
  | int (n : Int) : Plain (.int n)
  | text (s : String) : Plain (.text s)
  | list {items : List Value} (h : ∀ item ∈ items, Plain item) : Plain (.list items)
  | map {entries : Entries} (hkeys : ∀ entry ∈ entries, ∃ key, entry.1 = .text key)
    (hvalues : ∀ entry ∈ entries, Plain entry.2) : Plain (.map entries)

theorem Layout.isGap_gap (layout : Layout) (depth : Nat) : IsGap (layout.gap depth).toList := by
  cases layout with
  | oneLine => exact isGap_nil
  | indented =>
    intro c hc
    rw [gap, String.toList_append, List.mem_append] at hc
    rcases hc with hc | hc
    · exact .inr (.inl (by simpa using hc))
    · rw [String.toList_ofList] at hc
      exact .inl (List.eq_of_mem_replicate hc)

theorem Layout.toList_enclose_nil (layout : Layout) (depth : Nat) (left right : Char) :
    (layout.enclose depth left right []).toList = [left, right] :=
  String.toList_ofList

/-- Parts between brackets have gaps around them, and a comma and a gap between any two. -/
theorem Layout.exists_toList_enclose (layout : Layout) (depth : Nat) (left right : Char)
    (parts : List String) (h : parts ≠ []) :
    ∃ before gap after, IsGap before ∧ IsGap gap ∧ IsGap after ∧
      (layout.enclose depth left right parts).toList =
        left :: (before ++ (',' :: gap).intercalate (parts.map String.toList) ++ after) ++
          [right] := by
  have hseparator : ∃ gap, IsGap gap ∧
      ((if layout = .oneLine then ", " else ",") ++ layout.gap (depth + 1)).toList =
        ',' :: gap := by
    cases layout with
    | oneLine => exact ⟨[' '], by simp [IsGap], by simp [gap]⟩
    | indented => exact ⟨_, Layout.indented.isGap_gap (depth + 1), by simp⟩
  obtain ⟨gap, hgap, hcomma⟩ := hseparator
  refine ⟨_, gap, _, layout.isGap_gap (depth + 1), hgap, layout.isGap_gap depth, ?_⟩
  rw [enclose, if_neg (by simpa using h)]
  simp only [String.toList_append, String.toList_singleton, String.toList_intercalate] at hcomma ⊢
  rw [hcomma]
  simp

theorem jsonItems_eq_map (layout : Layout) (depth : Nat) (items : List Value) :
    jsonItems layout depth items = items.map (·.jsonAt layout depth) := by
  induction items with
  | nil => rfl
  | cons item items ih => rw [jsonItems, ih, List.map_cons]

theorem jsonEntries_eq_map (layout : Layout) (depth : Nat) (entries : Entries) :
    jsonEntries layout depth entries = entries.map fun entry =>
      jsonString entry.1.letters ++ ": " ++ entry.2.jsonAt layout depth := by
  induction entries with
  | nil => rfl
  | cons entry entries ih => rw [jsonEntries, ih, List.map_cons]

/-- Texts of items with commas and gaps between them and gaps around are a text of the items. -/
theorem spellsItems_intercalate (text : Value → List Char) {items : List Value}
    (hitems : items ≠ []) (h : ∀ item ∈ items, Spells item (text item))
    {left gap right : List Char} (hleft : IsGap left) (hgap : IsGap gap) (hright : IsGap right) :
    SpellsItems items (left ++ (',' :: gap).intercalate (items.map text) ++ right) := by
  induction items generalizing left with
  | nil => exact absurd rfl hitems
  | cons item items ih =>
    rw [List.forall_mem_cons] at h
    cases items with
    | nil =>
      rw [List.map_singleton, List.intercalate_singleton]
      exact .single (.padded hleft h.1 hright)
    | cons next items =>
      have hrest := ih (List.cons_ne_nil _ _) h.2 hgap
      have hitem : JsonText item (left ++ text item ++ []) := .padded hleft h.1 isGap_nil
      have hall := SpellsItems.cons hitem hrest
      simpa [List.intercalate_cons_cons] using hall

/-- Texts of entries with commas and gaps between them and gaps around are a text of the entries. -/
theorem spellsEntries_intercalate (text : Value → List Char) {entries : Entries}
    (hentries : entries ≠ []) (hkeys : ∀ entry ∈ entries, ∃ key, entry.1 = .text key)
    (h : ∀ entry ∈ entries, Spells entry.2 (text entry.2)) {left gap right : List Char}
    (hleft : IsGap left) (hgap : IsGap gap) (hright : IsGap right) :
    SpellsEntries entries (left ++ (',' :: gap).intercalate (entries.map fun entry =>
      (jsonString entry.1.letters).toList ++ ':' :: ' ' :: text entry.2) ++ right) := by
  induction entries generalizing left with
  | nil => exact absurd rfl hentries
  | cons entry entries ih =>
    rw [List.forall_mem_cons] at h hkeys
    obtain ⟨scalar, value⟩ := entry
    obtain ⟨⟨key, rfl⟩, hkeys⟩ := hkeys
    have hspace : IsGap [' '] := by simp [IsGap]
    have hkey : JsonText (.text key) (left ++ (jsonString (.ofString key)).toList ++ []) :=
      .padded hleft (.text (spellsString_jsonString key)) isGap_nil
    cases entries with
    | nil =>
      have hall := SpellsEntries.single hkey (.padded hspace h.1 hright)
      simpa [Scalar.letters] using hall
    | cons next entries =>
      have hrest := ih (List.cons_ne_nil _ _) hkeys h.2 hgap
      have hvalue : JsonText value ([' '] ++ text value ++ []) := .padded hspace h.1 isGap_nil
      have hall := SpellsEntries.cons hkey hvalue hrest
      simpa [List.intercalate_cons_cons, Scalar.letters] using hall

/-- **The printed form of a plain value is a text of the value.** -/
theorem Value.Plain.spells {value : Value} (h : value.Plain) (layout : Layout) (depth : Nat) :
    Spells value (value.jsonAt layout depth).toList := by
  induction h generalizing depth with
  | null => exact .null
  | bool b => cases b <;> constructor
  | int n => exact .int (spellsInt_toString n)
  | text s => exact .text (spellsString_jsonString s)
  | @list items _ ih =>
    rw [jsonAt, jsonItems_eq_map]
    by_cases hitems : items = []
    · subst items
      rw [List.map_nil, Layout.toList_enclose_nil]
      exact .list (.nil isGap_nil)
    · obtain ⟨before, gap, after, hbefore, hgap, hafter, henclose⟩ :=
        layout.exists_toList_enclose depth '[' ']' (items.map (·.jsonAt layout (depth + 1)))
          (by simpa using hitems)
      rw [henclose, List.map_map]
      exact .list (spellsItems_intercalate (fun item => (item.jsonAt layout (depth + 1)).toList)
        hitems (fun item hitem => ih item hitem (depth + 1)) hbefore hgap hafter)
  | @map entries hkeys _ ih =>
    rw [jsonAt, jsonEntries_eq_map]
    by_cases hentries : entries = []
    · subst entries
      rw [List.map_nil, Layout.toList_enclose_nil]
      exact .map (.nil isGap_nil)
    · obtain ⟨before, gap, after, hbefore, hgap, hafter, henclose⟩ :=
        layout.exists_toList_enclose depth '{' '}'
          (entries.map fun entry =>
            jsonString entry.1.letters ++ ": " ++ entry.2.jsonAt layout (depth + 1))
          (by simpa using hentries)
      have hall := spellsEntries_intercalate
        (fun value => (value.jsonAt layout (depth + 1)).toList) hentries hkeys
        (fun entry hentry => ih entry hentry (depth + 1)) hbefore hgap hafter
      rw [henclose, List.map_map]
      simpa [Function.comp_def] using Spells.map hall

end GoIndex.Data
