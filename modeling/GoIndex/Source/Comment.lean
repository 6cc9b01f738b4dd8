import GoIndex.Text.Blank
import GoIndex.Text.Lines

/-!
# Comments

`cutComment` drops a comment at the end of a line. `documentation` reads the run of comment lines
that stands directly above a declaration, walking up from it: one blank line is bridged before the
run, and any other blank line, or a line that is no comment, ends the walk.
-/

namespace GoIndex.Source

open Text

/-- The line up to its first comment mark. -/
def cutComment : Line → Line
  | '/' :: '/' :: _ => []
  | c :: rest => c :: cutComment rest
  | [] => []

/-- The code of a line: no comment, no white space around it. -/
def codeOf (line : Line) : Line :=
  trim (cutComment line)

/-! ### One line -/

/-- The text without one white space character at its start. -/
def dropBlank : List Char → List Char
  | c :: text => if isBlank c then text else c :: text
  | [] => []

/-- Whether a trimmed line is a line comment. -/
def isLineComment (line : Line) : Bool :=
  ['/', '/'].isPrefixOf line

/-- Whether a trimmed line looks like a part of a block comment. -/
def isBlockComment (line : Line) : Bool :=
  ['/', '*'].isPrefixOf line || ['*'].isPrefixOf line || ['*', '/'].isSuffixOf line

/-- The line without a mark that closes a block comment at its end. -/
def dropClosing (line : Line) : Line :=
  if ['*', '/'].isSuffixOf line then line.take (line.length - 2) else line

/-- The line without a mark that opens a block comment, and one white space character behind it. -/
def dropOpening : Line → Line
  | '/' :: '*' :: rest => dropBlank (rest.dropWhile (· == '*'))
  | line => line

/-- The line without a star at its start, and one white space character behind it. -/
def dropStar : Line → Line
  | '*' :: rest => dropBlank rest
  | line => line

/-- The words of a trimmed comment line. A line comment always has some, if only no characters; a
line of a block comment has none when only marks stand on it. -/
def commentText? (line : Line) : Option (List Char) :=
  if isLineComment line then some (dropBlank (line.drop 2))
  else
    let text := trim (dropStar (dropOpening (dropClosing line)))
    if text.isEmpty then none else some text

/-! ### The run above a declaration -/

/-- How far a walk up from a declaration has come. -/
inductive Walk where
  /-- No line has been passed. -/
  | starting
  /-- A blank line has been passed, and nothing else. -/
  | bridged
  /-- A comment line has been passed. -/
  | inRun
  deriving DecidableEq, Repr

/-- The texts of the comment lines that a walk meets, in source order; `above` has the nearest line
first. -/
def commentRun : Walk → (above : List Line) → List (List Char)
  | _, [] => []
  | walk, line :: above =>
    let line := trim line
    if line.isEmpty then
      if walk = .starting then commentRun .bridged above else []
    else if isLineComment line || isBlockComment line then
      commentRun .inRun above ++ (commentText? line).toList
    else []

/-- The documentation of a declaration below the lines `above`, nearest first. -/
def documentation (above : List Line) : Option (List Char) :=
  let text := trim ([' '].intercalate (commentRun .starting above))
  if text.isEmpty then none else some text

/-- The documentation of the line at a position: none above the first line, and no answer beyond
the line behind the last. -/
def documentationAt? (lines : List Line) (position : Int) : Option (Option (List Char)) :=
  if position ≤ 0 then some none
  else if position ≤ lines.length then
    some (documentation (lines.take position.toNat).reverse)
  else none

end GoIndex.Source
