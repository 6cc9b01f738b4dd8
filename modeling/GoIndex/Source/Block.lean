import GoIndex.Text.Blank
import GoIndex.Text.Lines

/-!
# Blocks and headers

`takeBlock` takes the lines of a block off a list of lines: up to and with the first line at whose
end something has been opened and as much closed as opened; all lines when there is none. Closing
delimiters alone never end a block. `headerLines` takes the lines of a function header.

Both work on the lines from the first one on. `linesFrom?` gives the lines that reading from a
position sees, and the functions named `At` read from there.
-/

namespace GoIndex.Source

open Text

/-! ### Balance -/

/-- An opening and a closing delimiter; one that is missing stands nowhere. When both are the same
character, it opens. -/
structure Delimiters where
  opening : Option Char
  closing : Option Char

/-- The delimiter that a text is: one character, or none that stands anywhere. -/
def delimiterOf (text : String) : Option Char :=
  match text.toList with
  | [c] => some c
  | _ => none

/-- Braces. -/
def Delimiters.braces : Delimiters := ⟨some '{', some '}'⟩

/-- Parentheses. -/
def Delimiters.parens : Delimiters := ⟨some '(', some ')'⟩

/-- How many more delimiters were opened than closed, and whether one was opened at all. -/
structure Balance where
  depth : Int := 0
  opened : Bool := false
  deriving DecidableEq, Repr

/-- The balance behind one more character. -/
def Balance.push (d : Delimiters) (b : Balance) (c : Char) : Balance :=
  if some c = d.opening then ⟨b.depth + 1, true⟩
  else if some c = d.closing then ⟨b.depth - 1, b.opened⟩
  else b

/-- The balance behind a line. -/
def Balance.behind (d : Delimiters) (b : Balance) (line : Line) : Balance :=
  line.foldl (Balance.push d) b

/-- Something was opened, and all of it was closed. -/
def Balance.isClosed (b : Balance) : Bool :=
  b.opened && b.depth == 0

/-! ### Blocks -/

/-- Takes lines until the balance closes; the other lines are left. -/
def takeBlockFrom (d : Delimiters) (b : Balance) : List Line → List Line × List Line
  | [] => ([], [])
  | line :: rest =>
    let b := b.behind d line
    if b.isClosed then ([line], rest)
    else
      let (taken, left) := takeBlockFrom d b rest
      (line :: taken, left)

/-- Takes the block that starts with the first line; the other lines are left. -/
def takeBlock (d : Delimiters) (lines : List Line) : List Line × List Line :=
  takeBlockFrom d {} lines

/-- No line is lost. -/
theorem takeBlockFrom_append (d : Delimiters) (b : Balance) (lines : List Line) :
    (takeBlockFrom d b lines).1 ++ (takeBlockFrom d b lines).2 = lines := by
  fun_induction takeBlockFrom d b lines <;> simp_all

/-- A block holds the line that it starts with. -/
theorem length_takeBlockFrom_lt (d : Delimiters) (b : Balance) (line : Line) (rest : List Line) :
    (takeBlockFrom d b (line :: rest)).2.length < (line :: rest).length := by
  have h := congrArg List.length (takeBlockFrom_append d b (line :: rest))
  have hpos : 0 < (takeBlockFrom d b (line :: rest)).1.length := by
    rw [takeBlockFrom]
    split <;> simp
  simp only [List.length_append] at h
  omega

/-! ### Headers -/

/-- The lines of a function header: up to a line that opens a body, a line that ends in a
parenthesis with none left open, or the last line that `limit` allows. At least one is taken. -/
def headerLines (limit : Nat) (depth : Int) : List Line → List Line
  | [] => []
  | line :: rest =>
    let depth := depth + line.count '(' - line.count ')'
    if line.contains '{' || (depth ≤ 0 && (trim line).getLast? == some ')') || limit ≤ 1 then [line]
    else line :: headerLines (limit - 1) depth rest

/-- A function header on one line. -/
def signature (limit : Nat) (lines : List Line) : List Char :=
  [' '].intercalate ((headerLines limit 0 lines).map trim)

/-! ### Reading from a position -/

/-- The lines that reading from position `start` sees. A negative position counts from the end, and
reading then goes on with the whole list; before the first line there is nothing to read from. -/
def linesFrom? (lines : List Line) (start : Int) : Option (List Line) :=
  if 0 ≤ start then some (lines.drop start.toNat)
  else if 0 ≤ lines.length + start then
    some (lines.drop (lines.length + start).toNat ++ lines)
  else none

/-- A captured block: its text and the position of its last line. -/
structure Capture where
  text : List Char
  endLine : Int
  deriving DecidableEq, Repr

/-- Captures the block that starts at a position. -/
def captureAt? (d : Delimiters) (lines : List Line) (start : Int) : Option Capture := do
  let taken := (takeBlock d (← linesFrom? lines start)).1
  let endLine := if taken.isEmpty then (lines.length : Int) - 1 else start + taken.length - 1
  some ⟨unlines taken, endLine⟩

/-- The function header that starts at a position, on one line. -/
def signatureAt? (limit : Nat) (lines : List Line) (start : Int) : Option (List Char) :=
  (linesFrom? lines start).map (signature limit)

end GoIndex.Source
