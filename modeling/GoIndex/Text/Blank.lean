/-!
# White space

Two classes of white space: `isSpace`, the white space of Unicode, and `isBlank`, which also has the
four information separators U+001C to U+001F. Source text is trimmed and split by `isBlank`; numbers
are trimmed by `isSpace`.
-/

namespace GoIndex.Text

/-! ### Classes -/

/-- White space of Unicode. -/
def isSpace (c : Char) : Bool :=
  let n := c.toNat
  (9 ≤ n && n ≤ 13) || n == 32 || n == 0x85 || n == 0xa0 || n == 0x1680 ||
    (0x2000 ≤ n && n ≤ 0x200a) || n == 0x2028 || n == 0x2029 || n == 0x202f || n == 0x205f ||
    n == 0x3000

/-- White space of source text: that of Unicode and the information separators. -/
def isBlank (c : Char) : Bool :=
  isSpace c || (0x1c ≤ c.toNat && c.toNat ≤ 0x1f)

/-! ### Trimming -/

/-- The text without the characters of a class at its start. -/
def trimLeftOf (p : Char → Bool) (text : List Char) : List Char :=
  text.dropWhile p

/-- The text without the characters of a class at its end. -/
def trimRightOf (p : Char → Bool) (text : List Char) : List Char :=
  (text.reverse.dropWhile p).reverse

/-- The text without white space at its start. -/
def trimLeft (text : List Char) : List Char :=
  trimLeftOf isBlank text

/-- The text without white space at its end. -/
def trimRight (text : List Char) : List Char :=
  trimRightOf isBlank text

/-- The text without white space at either end. -/
def trim (text : List Char) : List Char :=
  trimRight (trimLeft text)

/-- The longest stretches without white space, in order. -/
def words (text : List Char) : List (List Char) :=
  (text.splitOnP isBlank).filter (!·.isEmpty)

@[simp]
theorem trim_nil : trim [] = [] := rfl

/-- The separators are blank without being Unicode white space. -/
example : isBlank '\x1c' = true ∧ isSpace '\x1c' = false := by decide

end GoIndex.Text
