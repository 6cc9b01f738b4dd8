import GoIndex.Data.Yaml.Cursor
import GoIndex.Data.Yaml.Scalar

/-!
# Texts of YAML scalars

A scalar is written between quotes, plainly, or as a block of lines behind a mark. Each form has its
own rule for what its line ends mean: in the first two, and in a folded block, a single line end is
a space, and of several the first is dropped.
-/

namespace GoIndex.Data.Yaml

open Text

/-- What one line end and the further ones behind it leave in a scalar. -/
def folded (first : Char) (further : List Char) : List Char :=
  (if first != '\n' then [first] else if further.isEmpty then [' '] else []) ++ further

/-! ### Quoted scalars -/

/-- The further line ends behind one inside quotes, and the place of the next text. -/
def quotedBreaks? : (fuel : Nat) → Cursor → Option (List Char × Cursor)
  | 0, _ => none
  | fuel + 1, c =>
    if c.isDocumentMark then none
    else
      let c := (c.span fun ch => ch == ' ' || ch == '\t').2
      match c.lineEnd? with
      | none => some ([], c)
      | some (ch, c) => (quotedBreaks? fuel c).map fun r => (ch :: r.1, r.2)

/-- The character that an escape of one letter stands for. -/
def escapeChar? : Char → Option Char
  | '0' => some (Char.ofNat 0)
  | 'a' => some (Char.ofNat 7)
  | 'b' => some (Char.ofNat 8)
  | 't' => some '\t'
  | '\t' => some '\t'
  | 'n' => some '\n'
  | 'v' => some (Char.ofNat 11)
  | 'f' => some (Char.ofNat 12)
  | 'r' => some '\r'
  | 'e' => some (Char.ofNat 27)
  | ' ' => some ' '
  | '"' => some '"'
  | '\\' => some '\\'
  | '/' => some '/'
  | 'N' => some (Char.ofNat 0x85)
  | '_' => some (Char.ofNat 0xa0)
  | 'L' => some (Char.ofNat 0x2028)
  | 'P' => some (Char.ofNat 0x2029)
  | _ => none

/-- How many hexadecimal digits an escape has. -/
def escapeWidth? : Char → Option Nat
  | 'x' => some 2
  | 'u' => some 4
  | 'U' => some 8
  | _ => none

/-- The letter with a code; a code beyond all characters is refused. -/
def letterOfCode (code : Nat) : Except Defect Letter :=
  if code.isValidChar then .ok (.char (Char.ofNat code))
  else if code < 0x110000 then .ok (.half code)
  else .error (.scalar (.noCharacter code))

/-- What the escape behind a backslash leaves, and the place behind it. -/
def escape (c : Cursor) : Except Defect (Letters × Cursor) :=
  match c.rest.head? with
  | none => .error c.ending
  | some letter =>
    match escapeChar? letter, escapeWidth? letter, c.lineEnd? with
    | some ch, _, _ => .ok ([.char ch], c.next)
    | none, some width, _ => do
      let digits ← wellFormed ((c.next.rest.take width).mapM hexDigit?)
      if digits.length = width then
        .ok ([← letterOfCode (ofDigits 16 digits)], c.next.forward width)
      else .error c.ending
    | none, none, some (_, c) => do
      let (breaks, c) ← wellFormed (quotedBreaks? (c.rest.length + 1) c)
      .ok (.ofChars breaks, c)
    | none, none, none => .error .malformed

/-- The text up to the closing quote and the place behind the quote. -/
def quotedText (double : Bool) : (fuel : Nat) → Cursor → Except Defect (Letters × Cursor)
  | 0, c => .error c.ending
  | fuel + 1, c => do
    match c.rest with
    | [] => .error c.ending
    | ch :: rest =>
      if ch == '\'' && !double then
        if rest.head? = some '\'' then
          let (text, c) ← quotedText double fuel (c.forward 2)
          .ok (.char '\'' :: text, c)
        else .ok ([], c.next)
      else if ch == '"' && double then .ok ([], c.next)
      else if ch == '\\' && double then
        let (piece, c) ← escape c.next
        let (text, c) ← quotedText double fuel c
        .ok (piece ++ text, c)
      else if isGap (some ch) then
        let (blanks, c) := c.span fun ch => ch == ' ' || ch == '\t'
        let (piece, c) ← match c.lineEnd? with
          | none => pure (blanks, c)
          | some (first, c) => do
            let (further, c) ← wellFormed (quotedBreaks? (c.rest.length + 1) c)
            pure (folded first further, c)
        let (text, c) ← quotedText double fuel c
        .ok (.ofChars piece ++ text, c)
      else
        let (text, c) ← quotedText double fuel c.next
        .ok (.char ch :: text, c)

/-! ### Plain scalars -/

/-- The characters of a plain scalar up to white space, a colon that ends it, or a mark of a flow
collection. -/
def plainWord (inFlow : Bool) : List Char → List Char
  | [] => []
  | ch :: rest =>
    if isGap (some ch) then []
    else if ch == ':' && (isGap rest.head? ||
        (inFlow && rest.head?.any fun next => [',', '[', ']', '{', '}'].contains next)) then []
    else if inFlow && [',', '?', '[', ']', '{', '}'].contains ch then []
    else ch :: plainWord inFlow rest

/-- The further line ends behind one in a plain scalar and the place of the next text; none when a
mark between documents comes first. -/
def plainBreaks : (fuel : Nat) → Cursor → Option (List Char) × Cursor
  | 0, c => (none, c)
  | fuel + 1, c =>
    let c := (c.span (· == ' ')).2
    match c.lineEnd? with
    | none => (some [], c)
    | some (ch, c) =>
      if c.isDocumentMark then (none, c)
      else
        let (further, c) := plainBreaks fuel c
        (further.map (ch :: ·), c)

/-- White space behind a word of a plain scalar: what it leaves before a further word, the place
behind it, and whether a line ended. Nothing is left when the scalar ends here. -/
def plainGap (c : Cursor) : List Char × Cursor × Bool :=
  let (blanks, c) := c.span (· == ' ')
  match c.lineEnd? with
  | none => (blanks, c, false)
  | some (first, c) =>
    if c.isDocumentMark then ([], c, true)
    else
      let (further, c) := plainBreaks (c.rest.length + 1) c
      ((further.map (folded first)).getD [], c, true)

/-- A plain scalar whose further lines stand at column `indent` or deeper: its text, the place
behind it, and whether a line ended behind its last word. -/
def plainText (inFlow : Bool) (indent : Int) : (fuel : Nat) → Cursor → List Char × Cursor × Bool
  | 0, c => ([], c, false)
  | fuel + 1, c =>
    let word := plainWord inFlow c.rest
    let (gap, after, ended) := plainGap (c.forward word.length)
    if gap.isEmpty || after.rest.head? = some '#' ||
        (!inFlow && decide ((after.column : Int) < indent)) ||
        (plainWord inFlow after.rest).isEmpty then (word, after, ended)
    else
      let (text, c, ended) := plainText inFlow indent fuel after
      (word ++ gap ++ text, c, ended)

/-! ### Block texts -/

/-- What is kept of the line ends at the end of a block text: none, the first, or all. -/
inductive Chomping where
  | strip
  | clip
  | keep
  deriving DecidableEq, Repr

/-- The chomping that a sign stands for. -/
def chomping? : Char → Option Chomping
  | '-' => some .strip
  | '+' => some .keep
  | _ => none

/-- The signs behind the mark of a block text: the chomping, the indentation if it is given, and the
place behind. A sign and a digit may stand in either order. -/
def blockSigns? (c : Cursor) : Option (Chomping × Option Nat × Cursor) := do
  let sign? (c : Cursor) := c.rest.head?.bind chomping?
  let digit? (c : Cursor) := c.rest.head?.bind asciiDigit?
  let (chomping, digit, c) :=
    match sign? c, digit? c with
    | some chomping, _ =>
      match digit? c.next with
      | some digit => (chomping, some digit, c.next.next)
      | none => (chomping, none, c.next)
    | none, some digit =>
      match sign? c.next with
      | some chomping => (chomping, some digit, c.next.next)
      | none => (.clip, some digit, c.next)
    | none, none => (.clip, none, c)
  if digit = some 0 then none else some (chomping, digit, c)

/-- The place behind the rest of the line that a block text starts in; only a comment may stand
there, behind a space. -/
def blockStart? (c : Cursor) : Option Cursor :=
  let after := (c.span (· == ' ')).2
  let ended := if after.rest.head? = some '#' then (after.span (!isBreak ·)).2 else after
  if after.index = c.index ∧ c.rest.head? = some '#' then none
  else
    match ended.lineEnd? with
    | some (_, next) => some next
    | none => if ended.rest.isEmpty then some ended else none

/-- The line ends before the first line of a block text, the deepest column in them, and the place
behind them. -/
def blockIndentation : (fuel : Nat) → (deepest : Nat) → Cursor → List Char × Nat × Cursor
  | 0, deepest, c => ([], deepest, c)
  | fuel + 1, deepest, c =>
    let c := (c.span (· == ' ')).2
    let deepest := if deepest < c.column then c.column else deepest
    match c.lineEnd? with
    | none => ([], deepest, c)
    | some (ch, c) =>
      let (breaks, deepest, c) := blockIndentation fuel deepest c
      (ch :: breaks, deepest, c)

/-- The line ends between lines of a block text, and the place behind them. -/
def blockBreaks (indent : Nat) : (fuel : Nat) → Cursor → List Char × Cursor
  | 0, c => ([], c)
  | fuel + 1, c =>
    let c := c.skipSpaces indent
    match c.lineEnd? with
    | none => ([], c)
    | some (ch, c) =>
      let (breaks, c) := blockBreaks indent fuel c
      (ch :: breaks, c)

/-- Whether a line of a block text stands here. -/
def hasBlockLine (indent : Nat) (c : Cursor) : Bool :=
  c.column == indent && !c.rest.isEmpty

/-- Whether a line starts with white space. -/
def startsBlank (c : Cursor) : Bool :=
  c.rest.head?.any fun ch => ch == ' ' || ch == '\t'

/-- The lines of a block text behind some line ends: their text, the end of the last line, the
further line ends, and the place behind. In a folded text one line end between two lines that start
with no white space is a space. -/
def blockLines (isFolded : Bool) (indent : Nat) :
    (fuel : Nat) → (breaks : List Char) → Cursor → List Char × List Char × List Char × Cursor
  | 0, breaks, c => ([], [], breaks, c)
  | fuel + 1, breaks, c =>
    if hasBlockLine indent c then
      let (line, behind) := c.span (!isBreak ·)
      let (ending, behind) := match behind.lineEnd? with
        | some (ch, behind) => ([ch], behind)
        | none => ([], behind)
      let (further, behind) := blockBreaks indent (behind.rest.length + 1) behind
      if hasBlockLine indent behind then
        let joint :=
          if isFolded && ending == ['\n'] && !startsBlank c && !startsBlank behind then
            if further.isEmpty then [' '] else []
          else ending
        let (text, tail) := blockLines isFolded indent fuel further behind
        (breaks ++ line ++ joint ++ text, tail)
      else (breaks ++ line, ending, further, behind)
    else ([], [], breaks, c)

/-- The block text behind its mark, inside a block at column `outer`, and the place behind it. -/
def blockText? (isFolded : Bool) (outer : Int) (c : Cursor) : Option (List Char × Cursor) := do
  let (chomping, digit, c) ← blockSigns? c
  let c ← blockStart? c
  let least := if outer < 0 then 1 else outer.toNat + 1
  let (indent, breaks, c) := match digit with
    | none =>
      let (breaks, deepest, c) := blockIndentation (c.rest.length + 1) 0 c
      (if least < deepest then deepest else least, breaks, c)
    | some digit =>
      let indent := least + digit - 1
      (indent, blockBreaks indent (c.rest.length + 1) c)
  let (text, ending, breaks, c) := blockLines isFolded indent (c.rest.length + 1) breaks c
  some (text ++ (if chomping = .strip then [] else ending) ++
    (if chomping = .keep then breaks else []), c)

end GoIndex.Data.Yaml
