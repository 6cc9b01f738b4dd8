import GoIndex.Data.Yaml.ScalarText

/-!
# Tokens of YAML

A YAML text as a list of tokens. Indentation is made explicit: a block that opens and a block that
ends are tokens of their own. A mapping key shows only at the colon behind it, so the place of every
token that may turn out to be a key is remembered, and the token that announces the key is put there
later. Such a key has to lie on one line and within 1024 characters.

Where a text cannot be read further, its last token is the defect found there. Of the tokens before
it, those stay whose meaning is settled: a token that may turn out to be a key is not, and neither
is one behind it.

A directive stands on a line of its own before a document. The name of a tag is written as a handle,
which stands for the start of the name, and the rest of it, in which bytes may be escaped.
-/

namespace GoIndex.Data.Yaml

open Text

/-- What a directive says: the version of the language, or the start of the names of tags that a
handle stands for. Other directives say nothing. -/
inductive Directive where
  | version (major : Nat)
  | handle (handle stem : List Char)
  | other
  deriving DecidableEq, Repr

/-- A token. -/
inductive Token where
  | directive (directive : Directive)
  | documentStart
  | documentEnd
  | blockSequence
  | blockMapping
  | blockEnd
  | flowSequence
  | flowSequenceEnd
  | flowMapping
  | flowMappingEnd
  | item
  | comma
  | key
  | value
  | anchor (name : List Char)
  | reference (name : List Char)
  | tag (handle : Option (List Char)) (suffix : List Char)
  | scalar (plain : Bool) (text : Letters)
  | unreadable (defect : Defect)
  deriving DecidableEq, Repr

/-! ### Names of tags -/

/-- Whether a character may stand in the name of an anchor or of a handle. -/
def isNameChar (c : Char) : Bool :=
  c.isAlphanum || c == '-' || c == '_'

/-- Whether a character may stand in the name of a tag as it is. -/
def isTagChar (c : Char) : Bool :=
  c.isAlphanum || "-;/?:@&=+$,_.!~*'()[]".toList.contains c

/-- Whether the line goes on behind a name: with a space, or not at all. -/
def endsName (c : Cursor) : Bool :=
  c.rest.head?.all fun ch => ch == ' ' || isBreak ch

/-- The bytes that are escaped from here on. -/
def escapedBytes? : List Char → Option (List UInt8)
  | '%' :: a :: b :: rest => do
    let byte := (16 * (← hexDigit? a) + (← hexDigit? b)).toUInt8
    let bytes ← escapedBytes? rest
    some (byte :: bytes)
  | '%' :: _ => none
  | _ => some []

/-- The part of a tag's name from here on and the place behind it. -/
def tagPart? : (fuel : Nat) → Cursor → Option (List Char × Cursor)
  | 0, _ => none
  | fuel + 1, c => do
    let (plain, after) := c.span isTagChar
    if after.rest.head? = some '%' then
      let bytes ← escapedBytes? after.rest
      match decodeStrictly bytes with
      | .ok text =>
        let (rest, c) ← tagPart? fuel (after.forward (3 * bytes.length))
        some (plain ++ text ++ rest, c)
      | .error _ => none
    else some (plain, after)

/-- The name of a tag from here on, or its part behind the handle, and the place behind it. -/
def tagName? (c : Cursor) : Option (List Char × Cursor) := do
  let (name, after) ← tagPart? (c.rest.length + 1) c
  if after.index = c.index then none else some (name, after)

/-- A handle and the place behind it: one mark, or a name between two. -/
def tagHandle? (c : Cursor) : Option (List Char × Cursor) :=
  match c.rest with
  | '!' :: ' ' :: _ => some (['!'], c.next)
  | '!' :: _ =>
    let (name, after) := c.next.span isNameChar
    if after.rest.head? = some '!' then some ('!' :: name ++ ['!'], after.next) else none
  | _ => none

/-- The handle and the suffix of the tag that stands here, and the place behind it. -/
def tagParts? (c : Cursor) : Option (Option (List Char) × List Char × Cursor) := do
  let behind := c.next.rest
  if behind.head? = some '<' then
    let (name, after) ← tagName? (c.forward 2)
    if after.rest.head? = some '>' then some (none, name, after.next) else none
  else if isGap behind.head? then some (none, ['!'], c.next)
  else if (behind.takeWhile fun ch => !(ch == ' ' || isBreak ch)).contains '!' then
    let (handle, after) ← tagHandle? c
    let (suffix, after) ← tagName? after
    some (some handle, suffix, after)
  else
    let (suffix, after) ← tagName? c.next
    some (some ['!'], suffix, after)

/-! ### Directives -/

/-- A number of a version and the place behind it. -/
def versionNumber (c : Cursor) : Except Defect (Nat × Cursor) :=
  let (digits, after) := c.span (·.isDigit)
  if digits.isEmpty then .error c.ending
  else if maxDigits < digits.length then .error (.scalar (.tooManyDigits digits.length))
  else .ok (ofDigits 10 (digits.filterMap asciiDigit?), after)

/-- What a directive says, and the place behind it on its line. -/
def directiveParts (c : Cursor) : Except Defect (Directive × Cursor) := do
  let (name, after) := c.next.span isNameChar
  let value := (after.span (· == ' ')).2
  if name.isEmpty || !endsName after then .error .malformed
  else if name = "YAML".toList then
    let (major, after) ← versionNumber value
    if after.rest.head? = some '.' then
      let (_, after) ← versionNumber after.next
      if endsName after then .ok (.version major, after) else .error .malformed
    else .error .malformed
  else if name = "TAG".toList then
    let (handle, after) ← wellFormed (tagHandle? value)
    if after.rest.head? = some ' ' then
      let (stem, after) ← wellFormed (tagName? (after.span (· == ' ')).2)
      if endsName after then .ok (.handle handle stem, after) else .error .malformed
    else .error .malformed
  else .ok (.other, (after.span (!isBreak ·)).2)

/-- The place behind the line of a directive; only a comment may stand there. -/
def behindDirective? (c : Cursor) : Option Cursor :=
  let c := (c.span (· == ' ')).2
  let c := if c.rest.head? = some '#' then (c.span (!isBreak ·)).2 else c
  match c.lineEnd? with
  | some (_, next) => some next
  | none => if c.rest.isEmpty then some c else none

/-! ### The tokens of a text -/

/-- A token that may turn out to be a key: its number among the tokens, where it stands, and whether
it has to be a key. -/
structure PendingKey where
  number : Nat
  required : Bool
  place : Cursor

/-- What has been read of a text. -/
structure Lexer where
  cursor : Cursor
  flow : Nat := 0
  indent : Int := -1
  outer : List Int := []
  keyAllowed : Bool := true
  pending : List (Nat × PendingKey) := []
  tokens : Array Token := #[]

namespace Lexer

/-- Adds a token and goes forward. -/
def emit (s : Lexer) (token : Token) (width : Nat) : Lexer :=
  { s with tokens := s.tokens.push token, cursor := s.cursor.forward width }

/-- Goes to the next token, over white space, comments and line ends. In a block, a new line may
start with a key. -/
def skipBlanks : (fuel : Nat) → Lexer → Lexer
  | 0, s => s
  | fuel + 1, s =>
    let c := (s.cursor.span (· == ' ')).2
    let c := if c.rest.head? = some '#' then (c.span (!isBreak ·)).2 else c
    match c.lineEnd? with
    | some (_, c) =>
      skipBlanks fuel { s with cursor := c, keyAllowed := s.keyAllowed || s.flow == 0 }
    | none => { s with cursor := c }

/-- Forgets the pending keys that lie too far back. -/
def dropStale? (s : Lexer) : Option Lexer :=
  let stale (key : PendingKey) : Bool :=
    key.place.line != s.cursor.line || 1024 < s.cursor.index - key.place.index
  if s.pending.any fun key => stale key.2 && key.2.required then none
  else some { s with pending := s.pending.filter fun key => !stale key.2 }

/-- How many blocks end before a column, and the indentations that stay. -/
def endedBlocks (column : Int) : (indent : Int) → (outer : List Int) → Nat × Int × List Int
  | indent, next :: outer =>
    if column < indent then
      let (count, indent, outer) := endedBlocks column next outer
      (count + 1, indent, outer)
    else (0, indent, next :: outer)
  | indent, [] => (0, indent, [])

/-- Ends the blocks that stand deeper than a column. -/
def unwind (s : Lexer) (column : Int) : Lexer :=
  if s.flow = 0 then
    let (count, indent, outer) := endedBlocks column s.indent s.outer
    { s with
      indent := indent
      outer := outer
      tokens := s.tokens ++ Array.replicate count Token.blockEnd }
  else s

/-- Opens a block at a column if none is open there; the token goes to position `number`. -/
def openBlock (s : Lexer) (column : Nat) (token : Token) (number : Nat) : Lexer :=
  if s.indent < column then
    { s with
      indent := column
      outer := s.indent :: s.outer
      tokens := s.tokens.extract 0 number ++ #[token] ++ s.tokens.extract number s.tokens.size }
  else s

/-- Forgets the pending key of this flow level; one that has to be a key is refused. -/
def dropKey? (s : Lexer) : Option Lexer :=
  if (s.pending.lookup s.flow).any (·.required) then none
  else some { s with pending := s.pending.filter (·.1 != s.flow) }

/-- Remembers that the next token may be a key. -/
def saveKey? (s : Lexer) : Option Lexer :=
  if s.keyAllowed then do
    let s ← s.dropKey?
    let key : PendingKey :=
      ⟨s.tokens.size, s.flow == 0 && s.indent == s.cursor.column, s.cursor⟩
    some { s with pending := (s.flow, key) :: s.pending }
  else some s

/-- Reads a mark between documents. -/
def documentMark? (s : Lexer) (token : Token) : Option Lexer := do
  let s ← (s.unwind (-1)).dropKey?
  some { s.emit token 3 with keyAllowed := false }

/-- Reads a bracket that opens a flow collection. -/
def openFlow? (s : Lexer) (token : Token) : Option Lexer := do
  let s ← s.saveKey?
  some { s.emit token 1 with flow := s.flow + 1, keyAllowed := true }

/-- Reads a bracket that closes a flow collection. -/
def closeFlow? (s : Lexer) (token : Token) : Option Lexer := do
  let s ← s.dropKey?
  if s.flow = 0 then none
  else some { s.emit token 1 with flow := s.flow - 1, keyAllowed := false }

/-- Reads a comma. -/
def comma? (s : Lexer) : Option Lexer := do
  let s ← s.dropKey?
  some { s.emit .comma 1 with keyAllowed := true }

/-- Reads the dash of an item. -/
def item? (s : Lexer) : Option Lexer := do
  if s.flow = 0 ∧ !s.keyAllowed then none
  else
    let s := if s.flow = 0 then s.openBlock s.cursor.column .blockSequence s.tokens.size else s
    let s ← s.dropKey?
    some { s.emit .item 1 with keyAllowed := true }

/-- Reads the question mark of a key. -/
def key? (s : Lexer) : Option Lexer := do
  if s.flow = 0 ∧ !s.keyAllowed then none
  else
    let s := if s.flow = 0 then s.openBlock s.cursor.column .blockMapping s.tokens.size else s
    let s ← s.dropKey?
    some { s.emit .key 1 with keyAllowed := s.flow == 0 }

/-- Reads the colon of a value. A pending key is announced where it stands. -/
def value? (s : Lexer) : Option Lexer := do
  match s.pending.lookup s.flow with
  | some key =>
    let s := { s with
      pending := s.pending.filter (·.1 != s.flow)
      tokens := s.tokens.extract 0 key.number ++ #[Token.key] ++
        s.tokens.extract key.number s.tokens.size }
    let s := if s.flow = 0 then s.openBlock key.place.column .blockMapping key.number else s
    some { s.emit .value 1 with keyAllowed := false }
  | none =>
    if s.flow = 0 ∧ !s.keyAllowed then none
    else
      let s := if s.flow = 0 then s.openBlock s.cursor.column .blockMapping s.tokens.size else s
      let s ← s.dropKey?
      some { s.emit .value 1 with keyAllowed := s.flow == 0 }

/-- Reads the name of an anchor or of a reference. -/
def name? (s : Lexer) (token : List Char → Token) : Option Lexer := do
  let s ← s.saveKey?
  let name := s.cursor.next.rest.takeWhile isNameChar
  let after := s.cursor.forward (name.length + 1)
  let closing := ['?', ':', ',', ']', '}', '%', '@', Char.ofNat 96]
  if name.isEmpty then none
  else if isGap after.rest.head? || after.rest.head?.any closing.contains then
    some { s.emit (token name) (name.length + 1) with keyAllowed := false }
  else none

/-- Reads a tag. -/
def tag? (s : Lexer) : Option Lexer := do
  let s ← s.saveKey?
  let (handle, suffix, after) ← tagParts? s.cursor
  if endsName after then
    some { s with
      cursor := after
      keyAllowed := false
      tokens := s.tokens.push (.tag handle suffix) }
  else none

/-- Reads a directive. -/
def directive (s : Lexer) : Except Defect Lexer := do
  let s ← wellFormed (s.unwind (-1)).dropKey?
  let (directive, after) ← directiveParts s.cursor
  .ok { s with
    cursor := ← wellFormed (behindDirective? after)
    keyAllowed := false
    tokens := s.tokens.push (.directive directive) }

/-- Reads a quoted scalar. -/
def quoted (s : Lexer) (double : Bool) : Except Defect Lexer := do
  let s ← wellFormed s.saveKey?
  let (text, c) ← quotedText double s.cursor.rest.length s.cursor.next
  .ok { s with cursor := c, keyAllowed := false, tokens := s.tokens.push (.scalar false text) }

/-- Reads a block text. A key may follow it. -/
def blockText? (s : Lexer) (isFolded : Bool) : Option Lexer := do
  let s ← s.dropKey?
  let (text, c) ← Yaml.blockText? isFolded s.indent s.cursor.next
  some { s with
    cursor := c
    keyAllowed := true
    tokens := s.tokens.push (.scalar false (.ofChars text)) }

/-- Reads a plain scalar. A line that ends behind it may be followed by a key. -/
def plain? (s : Lexer) : Option Lexer := do
  let s ← s.saveKey?
  let (text, c, ended) := plainText (s.flow != 0) (s.indent + 1) s.cursor.rest.length s.cursor
  some { s with
    cursor := c
    keyAllowed := ended
    tokens := s.tokens.push (.scalar true (.ofChars text)) }

/-- Whether a plain scalar may start with a character, given the one behind it. -/
def startsPlain (s : Lexer) (ch : Char) (next : Option Char) : Bool :=
  !(isGap (some ch) || ['-', '?', ':', ',', '[', ']', '{', '}', '#', '&', '*', '!', '|', '>', '\'',
      '"', '%', '@', Char.ofNat 96].contains ch) ||
    (!isGap next && (ch == '-' || (s.flow == 0 && (ch == '?' || ch == ':'))))

/-- Reads one more token other than a directive or a quoted scalar, from its first character on. -/
def unquoted? (s : Lexer) : Option Lexer :=
  let c := s.cursor
  match c.rest with
  | [] => none
  | ch :: rest =>
    let gapBehind := isGap rest.head?
    if c.column = 0 ∧ c.isMark '-' then s.documentMark? .documentStart
    else if c.column = 0 ∧ c.isMark '.' then s.documentMark? .documentEnd
    else if ch = '[' then s.openFlow? .flowSequence
    else if ch = '{' then s.openFlow? .flowMapping
    else if ch = ']' then s.closeFlow? .flowSequenceEnd
    else if ch = '}' then s.closeFlow? .flowMappingEnd
    else if ch = ',' then s.comma?
    else if ch = '-' ∧ gapBehind then s.item?
    else if ch = '?' ∧ (s.flow ≠ 0 ∨ gapBehind) then s.key?
    else if ch = ':' ∧ (s.flow ≠ 0 ∨ gapBehind) then s.value?
    else if ch = '*' then s.name? .reference
    else if ch = '&' then s.name? .anchor
    else if ch = '!' then s.tag?
    else if ch = '|' ∧ s.flow = 0 then s.blockText? false
    else if ch = '>' ∧ s.flow = 0 then s.blockText? true
    else if s.startsPlain ch rest.head? then s.plain?
    else none

/-- Reads one more token, from its first character on. -/
def token (s : Lexer) : Except Defect Lexer :=
  match s.cursor.rest.head? with
  | some '\'' => s.quoted false
  | some '"' => s.quoted true
  | some '%' => if s.cursor.column = 0 then s.directive else .error .malformed
  | _ => wellFormed s.unquoted?

/-- What has been read, unless that is all and a wall stands there. -/
def beforeWall (s : Lexer) : Except Defect Lexer :=
  match s.cursor.rest, s.cursor.wall with
  | [], some defect => .error defect
  | _, _ => .ok s

/-- Reads one more token; at the end of the text there is none. -/
def step (s : Lexer) : Except Defect (Lexer × Bool) := do
  let s ← (skipBlanks (s.cursor.rest.length + 1) s).beforeWall
  let s ← wellFormed s.dropStale?
  let s := s.unwind s.cursor.column
  if s.cursor.rest.isEmpty then .ok (← wellFormed (s.unwind (-1)).dropKey?, true)
  else .ok (← (← s.token).beforeWall, false)

/-- The tokens before the first that may turn out to be a key. -/
def settled (s : Lexer) : List Token :=
  let pending := ((s.dropStale?.map (·.pending)).getD s.pending).map (·.2.number)
  s.tokens.toList.take (pending.foldl (fun least n => if n < least then n else least) s.tokens.size)

/-- Reads the remaining tokens; `fuel` bounds their number. -/
def run : (fuel : Nat) → Lexer → List Token
  | 0, s => s.settled ++ [.unreadable .malformed]
  | fuel + 1, s =>
    match s.step with
    | .error defect => s.settled ++ [.unreadable defect]
    | .ok (s, true) => s.tokens.toList
    | .ok (s, false) => run fuel s

end Lexer

/-- The tokens of a text. -/
def tokens (source : Source) : List Token :=
  let text := source.text
  let start := if text.head? = some (Char.ofNat 0xfeff) then text.tail else text
  Lexer.run (text.length + 2) { cursor := { rest := start, wall := source.wall } }

end GoIndex.Data.Yaml
