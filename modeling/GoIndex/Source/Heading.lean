import GoIndex.Declaration
import GoIndex.Text.Blank
import GoIndex.Text.Word

/-!
# Headings

The line that opens an exported declaration is its heading. There are nine forms of heading. Each
form reads a line from its first character on and returns the heading with the text behind it; it
reads no further than it has to, so the text behind an interface heading is all that follows its
brace.

Eight of the forms read the line in one way only. A type heading may be read in several: the value
is whatever follows the name, so a value that would be empty takes back, in this order, white space,
an equals sign, the type parameters, and at last the final letter of the name.
-/

namespace GoIndex.Source

open Text

/-! ### Pieces of a line -/

/-- The words that shape a declaration. -/
inductive Keyword where
  | type
  | interface
  | struct
  | func
  | const
  | var
  deriving DecidableEq, Repr

/-- The letters of a keyword. -/
def Keyword.spelling : Keyword → List Char
  | .type => ['t', 'y', 'p', 'e']
  | .interface => ['i', 'n', 't', 'e', 'r', 'f', 'a', 'c', 'e']
  | .struct => ['s', 't', 'r', 'u', 'c', 't']
  | .func => ['f', 'u', 'n', 'c']
  | .const => ['c', 'o', 'n', 's', 't']
  | .var => ['v', 'a', 'r']

/-- The text behind `start`, when the text starts with it. -/
def after? : (start text : List Char) → Option (List Char)
  | [], text => some text
  | _ :: _, [] => none
  | c :: start, d :: text => if c = d then after? start text else none

/-- The text behind a run of white space, when the text starts with one. -/
def afterBlanks? : List Char → Option (List Char)
  | c :: text => if isBlank c then some (trimLeft text) else none
  | [] => none

/-- An identifier whose first letter is of the class `start`, and the text behind it. -/
def nameFrom? (start : Char → Bool) : List Char → Option (List Char × List Char)
  | c :: text => if start c then some (c :: text.takeWhile isWord, text.dropWhile isWord) else none
  | [] => none

/-- The text behind the bracket that closes a list of type parameters. Inside the list brackets
nest once: `nested` tells whether an inner bracket is open. -/
def closeBracket? (nested : Bool) : List Char → Option (List Char)
  | [] => none
  | c :: text =>
    if c = ']' then if nested then closeBracket? false text else some text
    else if c = '[' then if nested then none else closeBracket? true text
    else closeBracket? nested text

/-- The text behind a list of type parameters, when the text starts with one. -/
def afterTypeParameters? : List Char → Option (List Char)
  | '[' :: text => closeBracket? false text
  | _ => none

/-- The text without a list of type parameters at its start. -/
def skipTypeParameters (text : List Char) : List Char :=
  (afterTypeParameters? text).getD text

/-- The line that the text starts with and the text behind it, when nothing but one line feed
follows the line. -/
def lastLine? (text : List Char) : Option (List Char × List Char) :=
  let rest := text.dropWhile (· != '\n')
  if rest = [] ∨ rest = ['\n'] then some (text.takeWhile (· != '\n'), rest) else none

/-! ### Headings and their forms -/

/-- Constants or variables. -/
inductive ValueKind where
  | const
  | var
  deriving DecidableEq, Repr

/-- The kind of a declared value. -/
def ValueKind.kind : ValueKind → Kind
  | .const => .const
  | .var => .var

/-- The word that declares a value. -/
def ValueKind.keyword : ValueKind → Keyword
  | .const => .const
  | .var => .var

/-- What a heading says. -/
inductive Heading where
  /-- Opens an interface. -/
  | interface (name : List Char)
  /-- Opens a struct. -/
  | struct (name : List Char)
  /-- Gives a name to a type, with or without an equals sign. -/
  | type (name : List Char) (equated : Bool) (value : List Char)
  /-- Starts a method. -/
  | method (receiver name : List Char)
  /-- Starts a function. -/
  | function (name : List Char)
  /-- Opens a group of constants or variables. -/
  | group (kind : ValueKind)
  /-- Declares one constant or variable. -/
  | single (kind : ValueKind) (name rest : List Char)
  deriving DecidableEq, Repr

/-- The forms that a heading can have. -/
inductive Form where
  | interface
  | struct
  | type
  | method
  | function
  | group (kind : ValueKind)
  | single (kind : ValueKind)
  deriving DecidableEq, Repr

/-- Every form, in the order in which a line is tried. -/
def Form.all : List Form :=
  [.interface, .struct, .type, .method, .function, .group .const, .group .var, .single .const,
    .single .var]

theorem Form.mem_all (form : Form) : form ∈ Form.all := by
  rcases form with _ | _ | _ | _ | _ | kind | kind <;> first | decide | (cases kind <;> decide)

/-! ### Reading each form -/

/-- The name that a type declaration gives, and the text behind it. -/
def typeName? (line : List Char) : Option (List Char × List Char) := do
  let rest ← afterBlanks? (← after? Keyword.type.spelling line)
  nameFrom? isCapital rest

/-- Reads a heading that opens a body behind `keyword`: the name and the text behind the brace. -/
def body? (keyword : Keyword) (line : List Char) : Option (List Char × List Char) := do
  let (name, rest) ← typeName? line
  let rest ← after? keyword.spelling (← afterBlanks? (skipTypeParameters rest))
  let rest ← after? ['{'] (trimLeft rest)
  some (name, rest)

/-- The ends of a text that leave off white space at its start, from all of it to none. -/
def blankSuffixes : List Char → List (List Char)
  | [] => [[]]
  | c :: text => if isBlank c then blankSuffixes text ++ [c :: text] else [c :: text]

/-- Where the value of a type may start in the text behind the name, best first, with a mark for an
equals sign before it. -/
def valueStarts (text : List Char) : List (Bool × List Char) :=
  (match trimLeft text with
    | '=' :: rest => (blankSuffixes rest).map (true, ·)
    | _ => []) ++ (blankSuffixes text).map (false, ·)

/-- A reading of a type heading: the name, the mark for an equals sign, and the text from the value
on. -/
structure TypeReading where
  name : List Char
  equated : Bool
  text : List Char

/-- The readings of a type heading with a name and the text behind it, best first. -/
def typeReadings (name rest : List Char) : List TypeReading :=
  (((afterTypeParameters? rest).toList ++ [rest]).flatMap valueStarts).map
      (fun start => ⟨name, start.1, start.2⟩) ++
    (if 1 < name.length then [⟨name.dropLast, false, name.drop (name.length - 1) ++ rest⟩] else [])

/-- A reading whose value is a whole line of at least one character, as a heading. -/
def TypeReading.heading? (reading : TypeReading) : Option (Heading × List Char) := do
  let (value, rest) ← lastLine? reading.text
  if value.isEmpty then none else some (.type reading.name reading.equated value, rest)

/-- Whether a value is the start of a struct or interface body. -/
def opensBody (value : List Char) : Bool :=
  [Keyword.struct, Keyword.interface].any fun keyword =>
    ((after? keyword.spelling value).bind fun rest => after? ['{'] (trimLeft rest)).isSome

/-- Reads a type heading. The best reading decides: if its value opens a body, there is none. -/
def type? (line : List Char) : Option (Heading × List Char) := do
  let (name, rest) ← typeName? line
  match (typeReadings name rest).findSome? TypeReading.heading? with
  | some (.type name equated value, rest) =>
    if opensBody value then none else some (.type name equated value, rest)
  | _ => none

/-- Reads a method heading: the receiver, the name, and the text behind the parenthesis that opens
the parameters. -/
def method? (line : List Char) : Option (Heading × List Char) := do
  let rest ← after? ['('] (trimLeft (← after? Keyword.func.spelling line))
  let receiver := rest.takeWhile (· != ')')
  if receiver.isEmpty then none
  else
    let rest ← after? [')'] (rest.dropWhile (· != ')'))
    let (name, rest) ← nameFrom? isCapital (trimLeft rest)
    let rest ← after? ['('] (trimLeft rest)
    some (.method receiver name, rest)

/-- Reads a function heading up to the parenthesis that opens the parameters. -/
def function? (line : List Char) : Option (Heading × List Char) := do
  let rest ← afterBlanks? (← after? Keyword.func.spelling line)
  let (name, rest) ← nameFrom? isCapital rest
  let rest ← after? ['('] (trimLeft (skipTypeParameters rest))
  some (.function name, rest)

/-- Reads the heading of a group. -/
def group? (kind : ValueKind) (line : List Char) : Option (Heading × List Char) := do
  let rest ← after? ['('] (trimLeft (← after? kind.keyword.spelling line))
  some (.group kind, rest)

/-- Reads the heading of a single constant or variable. -/
def single? (kind : ValueKind) (line : List Char) : Option (Heading × List Char) := do
  let rest ← afterBlanks? (← after? kind.keyword.spelling line)
  let (name, rest) ← nameFrom? isCapital rest
  let (value, rest) ← lastLine? rest
  some (.single kind name value, rest)

/-- Reads a heading of one form and returns it with the text behind it. -/
def Form.read? : Form → List Char → Option (Heading × List Char)
  | .interface, line => (body? .interface line).map fun r => (.interface r.1, r.2)
  | .struct, line => (body? .struct line).map fun r => (.struct r.1, r.2)
  | .type, line => type? line
  | .method, line => method? line
  | .function, line => function? line
  | .group kind, line => group? kind line
  | .single kind, line => single? kind line

/-- The heading that a line is, of the first form that reads one. -/
def Heading.ofLine? (line : List Char) : Option Heading :=
  Form.all.findSome? fun form => (form.read? line).map (·.1)

end GoIndex.Source
