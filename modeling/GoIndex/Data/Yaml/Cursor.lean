import GoIndex.Data.Yaml.Defect

/-!
# Places in a YAML text

A YAML text is read from left to right by a cursor that knows its line and its column. A line ends
with a line feed, a carriage return or both, or with one of three other characters of Unicode.

A text is looked at in pieces, and a piece with a character that may not stand in a text is refused
as a whole. `Source` is what can be had of a text: where it ends before its time, a wall stands
there.
-/

namespace GoIndex.Data.Yaml

open Text

/-! ### Characters -/

/-- Whether a character ends a line. -/
def isBreak (c : Char) : Bool :=
  c == '\n' || c == '\r' || c == Char.ofNat 0x85 || c == Char.ofNat 0x2028 || c == Char.ofNat 0x2029

/-- Whether a mark ends before what follows: white space or the end of the text. -/
def isGap : Option Char → Bool
  | none => true
  | some c => c == ' ' || c == '\t' || isBreak c

/-- Whether a character may stand in a text at all. -/
def isAllowed (c : Char) : Bool :=
  let n := c.toNat
  n == 9 || n == 10 || n == 13 || (0x20 ≤ n && n ≤ 0x7e) || n == 0x85 ||
    (0xa0 ≤ n && n ≤ 0xd7ff) || (0xe000 ≤ n && n ≤ 0xfffd) || 0x10000 ≤ n

/-! ### Texts in pieces -/

/-- What can be had of a text, and what stands in the way of the rest. -/
structure Source where
  text : List Char
  wall : Option Defect := none

/-- How many characters a piece has; the first piece has twice as many. -/
def pieceLength : Nat := 4096

/-- How many of the first `count` characters lie in pieces that end there or before. -/
def inWholePieces (count : Nat) : Nat :=
  if count < 2 * pieceLength then 0 else count / pieceLength * pieceLength

/-- A text up to the first piece with a character that may not stand in it. -/
def Source.ofText (text : List Char) : Source :=
  match text.findIdx? (!isAllowed ·) with
  | some n => ⟨text.take (inWholePieces n), some .malformed⟩
  | none => ⟨text, none⟩

/-- A text that ends before a fault of its bytes. -/
def Source.ofBroken (text : List Char) (fault : DecodingFault) : Source :=
  let whole := Source.ofText (text.take (inWholePieces text.length))
  { whole with wall := whole.wall <|> some (.undecodable fault) }

/-! ### Cursors -/

/-- A place in a text: the text from there on, how far it has come, and what stands at its end. -/
structure Cursor where
  rest : List Char
  index : Nat := 0
  line : Nat := 0
  column : Nat := 0
  wall : Option Defect := none

namespace Cursor

/-- The place behind one more character. A byte order mark has no width. -/
def next (c : Cursor) : Cursor :=
  match c.rest with
  | [] => c
  | ch :: rest =>
    if isBreak ch && !(ch == '\r' && rest.head? == some '\n') then
      { c with rest := rest, index := c.index + 1, line := c.line + 1, column := 0 }
    else
      let width := if ch == Char.ofNat 0xfeff then 0 else 1
      { c with rest := rest, index := c.index + 1, column := c.column + width }

/-- The place behind so many more characters. -/
def forward (c : Cursor) : Nat → Cursor
  | 0 => c
  | n + 1 => c.next.forward n

/-- What is wrong with a text that ends here and should not. -/
def ending (c : Cursor) : Defect :=
  c.wall.getD .malformed

/-- The characters of a class from here on, and the place behind them. -/
def span (c : Cursor) (p : Char → Bool) : List Char × Cursor :=
  let taken := c.rest.takeWhile p
  (taken, c.forward taken.length)

/-- The line end that stands here, as one character, and the place behind it. -/
def lineEnd? (c : Cursor) : Option (Char × Cursor) :=
  match c.rest with
  | '\r' :: '\n' :: _ => some ('\n', c.forward 2)
  | ch :: _ =>
    if ch == '\r' || ch == '\n' || ch == Char.ofNat 0x85 then some ('\n', c.next)
    else if isBreak ch then some (ch, c.next)
    else none
  | [] => none

/-- Whether three equal marks and a gap stand here. -/
def isMark (c : Cursor) (mark : Char) : Bool :=
  [mark, mark, mark].isPrefixOf c.rest && isGap c.rest[3]?

/-- Whether a mark between documents stands here. -/
def isDocumentMark (c : Cursor) : Bool :=
  c.isMark '-' || c.isMark '.'

/-- The place behind the spaces that stand before a column. -/
def skipSpaces (c : Cursor) (column : Nat) : Cursor :=
  c.forward ((c.rest.take (column - c.column)).takeWhile (· == ' ')).length

end Cursor

end GoIndex.Data.Yaml
