import GoIndex.Declaration
import GoIndex.Source.Comment
import GoIndex.Source.Heading

/-!
# Bodies

The lines of a block hold, between the first and the last, the items of a body: the methods of an
interface, the fields of a struct, the entries of a group. A body on one line lies between its first
opening and its last closing brace, with semicolons between the items. Items of any other shape give
nothing.
-/

namespace GoIndex.Source

open Text

/-! ### Items -/

/-- The text between the first opening and the last closing brace of a line. -/
def inlineBody? (line : Line) : Option (List Char) :=
  match line.dropWhile (· != '{') with
  | [] => none
  | _ :: rest =>
    match rest.reverse.dropWhile (· != '}') with
    | [] => none
    | _ :: body => some body.reverse

/-- The items of the body of a block. -/
def bodyItems : List Line → List Line
  | [line] => (inlineBody? line).elim [] (·.splitOn ';')
  | lines => lines.tail.dropLast

/-! ### Methods of an interface -/

/-- The text up to the parenthesis that closes the one in front of it, and the text behind it;
`depth` counts the inner parentheses that are open. -/
def closeParen? (depth : Nat) : List Char → Option (List Char × List Char)
  | [] => none
  | c :: text =>
    if c = '(' then (closeParen? (depth + 1) text).map fun r => (c :: r.1, r.2)
    else if c = ')' then
      match depth with
      | 0 => some ([], text)
      | depth + 1 => (closeParen? depth text).map fun r => (c :: r.1, r.2)
    else (closeParen? depth text).map fun r => (c :: r.1, r.2)

/-- The name, the text between the parentheses, and the text behind them. -/
def call? (text : List Char) : Option (List Char × List Char × List Char) := do
  let (name, rest) ← nameFrom? isNameStart text
  let (parameters, rest) ← closeParen? 0 (← after? ['('] (trimLeft rest))
  some (name, parameters, rest)

/-- The parameters in the text between parentheses: the pieces between commas, empty ones left
out. -/
def parametersOf (text : List Char) : List (List Char) :=
  ((text.splitOn ',').map trim).filter (!·.isEmpty)

/-- The method that an item of an interface declares. -/
def method (name parameters result : List Char) : Member where
  name := String.ofList name
  type := String.ofList (trim result)
  parameters := (parametersOf parameters).map String.ofList
  returnType := String.ofList (trim result)
  isMethod := true

/-- Reads a method from an item of an interface. -/
def methodOf? (item : Line) : Option Member :=
  let item := trim item
  if isLineComment item then none
  else (call? item).map fun r => method r.1 r.2.1 r.2.2

/-- The methods that the lines of an interface declare. -/
def interfaceMembers (block : List Line) : List Member :=
  (bodyItems block).filterMap methodOf?

/-! ### Fields of a struct -/

/-- Reads a field, a name and a type, from an item of a struct. -/
def fieldOf? (item : Line) : Option Member := do
  let (name, rest) ← nameFrom? isNameStart (codeOf item)
  let type ← afterBlanks? rest
  if type.isEmpty then none
  else some { name := String.ofList name, type := String.ofList type }

/-- The fields that the lines of a struct declare. -/
def structMembers (block : List Line) : List Member :=
  (bodyItems block).filterMap fieldOf?

/-! ### Entries of a group -/

/-- The value in the text behind a name: what follows an equals sign, or all of it. -/
def literalOf? (text : List Char) : Option (List Char) :=
  let value := trim <| match text.dropWhile (· != '=') with
    | [] => text
    | _ :: value => value
  if value.isEmpty then none else some value

/-- An entry of a group of constants or variables. -/
structure Entry where
  name : List Char
  text : List Char
  literal : Option (List Char)
  deriving DecidableEq, Repr

/-- Reads an entry from a line of a group. -/
def entryOf? (line : Line) : Option Entry :=
  let text := codeOf line
  (nameFrom? isNameStart text).map fun r => ⟨r.1, text, literalOf? r.2⟩

/-- The entries of a group, each with its distance from the line that opens the group. -/
def groupEntries (block : List Line) : List (Entry × Nat) :=
  (block.tail.dropLast.zipIdx 1).filterMap fun r => (entryOf? r.1).map (·, r.2)

end GoIndex.Source
