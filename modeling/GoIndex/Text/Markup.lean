import GoIndex.Text.Blank
import GoIndex.Text.Lower

/-!
# Markup in messages

A message may hold tags in brackets, such as `[bold]` and `[/bold]`. They say how the text between
them looks, and are not shown themselves. A tag begins with a small letter or one of three marks, so
`[]` and `[1]` are plain text. Backslashes before a tag stand for half as many; an odd one makes the
tag plain text. Where no tag follows, one backslash before a bracket is left out.

A closing tag closes the last tag of its name that is open, or the last one if it has no name. It
cannot be read when there is no such tag.
-/

namespace GoIndex.Text.Markup

/-! ### Tags -/

/-- Whether a tag can begin with a character. -/
def startsTag (c : Char) : Bool :=
  ('a' ≤ c && c ≤ 'z') || c == '#' || c == '/' || c == '@'

/-- The tag that a text starts with, without its brackets. -/
def tag? : List Char → Option (List Char)
  | '[' :: c :: text =>
    let body := text.takeWhile fun c => c != '[' && c != ']'
    if startsTag c && (text.drop body.length).head? == some ']' then some (c :: body) else none
  | _ => none

/-- A piece of a message. -/
inductive Piece where
  | plain (text : List Char)
  | tag (body : List Char)
  deriving DecidableEq, Repr

/-- What stands at the start of a text in place of plain characters, and how many characters it
takes. -/
def mark? (text : List Char) : Option (List Piece × Nat) :=
  let slashes := (text.takeWhile (· == '\\')).length
  match tag? (text.drop slashes) with
  | some body =>
    let shown := List.replicate (slashes / 2) '\\'
    let found : List Piece :=
      if slashes % 2 = 1 then [.plain (shown ++ '[' :: body ++ [']'])]
      else [.plain shown, .tag body]
    some (found, slashes + body.length + 2)
  | none => if slashes = 1 && text[1]? == some '[' then some ([.plain ['[']], 2) else none

/-- The pieces of a text, behind `skip` characters that are done. -/
def pieces : (skip : Nat) → List Char → List Piece
  | _, [] => []
  | skip + 1, _ :: text => pieces skip text
  | 0, c :: text =>
    match mark? (c :: text) with
    | some (found, width) => found ++ pieces (width - 1) text
    | none => .plain [c] :: pieces 0 text

/-! ### Reading -/

/-- Whether a character is shown: the control characters that would move the cursor are not. -/
def isShown (c : Char) : Bool :=
  let n := c.toNat
  !(n == 7 || n == 8 || (11 ≤ n && n ≤ 13))

/-- A name of a tag, by what stands for all that are the same. -/
def plainName (name : List Char) : String :=
  lower (String.ofList (trim name))

/-- The names of the open tags behind a tag, the last one in front; none when it closes a tag that
is not open. -/
def follow? (opened : List String) (body : List Char) : Option (List String) :=
  match body.takeWhile (· != '=') with
  | '/' :: name =>
    if (trim name).isEmpty then if opened.isEmpty then none else some opened.tail
    else if opened.contains (plainName name) then some (opened.erase (plainName name))
    else none
  | name => some (plainName name :: opened)

/-- What is shown of pieces behind open tags. -/
def showPieces (opened : List String) : List Piece → Option (List Char)
  | [] => some []
  | .plain text :: rest => (showPieces opened rest).map (text.filter isShown ++ ·)
  | .tag body :: rest => (follow? opened body).bind (showPieces · rest)

/-- What is shown of a message; none when its markup cannot be read. -/
def read? (message : List Char) : Option (List Char) :=
  showPieces [] (pieces 0 message)

example : read? "a [b]c[/b] \\[b] []".toList = some "a c [b] []".toList := by decide +kernel

end GoIndex.Text.Markup
