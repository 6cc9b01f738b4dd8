import GoIndex.Text.Blank
import GoIndex.Text.Lines
import GoIndex.Text.Lower
import GoIndex.Text.Utf8

/-!
# The environment

Two settings come from variables of the environment, or from a variables file with lines
`NAME=value`. Names are compared in lower case, the environment goes before the file, and of two
equal names the later one counts.

In a variables file a value may stand in quotes, with escapes; without quotes it ends before white
space and a comment mark. The word `export` may stand before a name. A line that does not fit is
passed over, and so is one byte order mark at the start.

A value may name other variables, as in `${NAME}` or `${NAME:-default}`: what an earlier line of the
file set counts first, then the environment, then the default.
-/

namespace GoIndex

open Text

/-! ### Lines of a variables file -/

/-- White space inside a line. -/
def isGapInLine (c : Char) : Bool :=
  isBlank c && c != '\n' && c != '\r'

/-- Whether a character ends a line. -/
def isLineEnd (c : Char) : Bool :=
  c == '\n' || c == '\r'

/-- The text without the word `export` and the white space behind it. -/
def skipExport (text : List Char) : List Char :=
  let word := ['e', 'x', 'p', 'o', 'r', 't']
  let rest := text.drop word.length
  if word.isPrefixOf text && rest.head?.any isGapInLine then rest.dropWhile isGapInLine else text

/-- The name of a variable and the text behind it. A comment has no name. -/
def variableName? (text : List Char) : Option (Option (List Char) × List Char) :=
  match text with
  | '#' :: _ => some (none, text)
  | '\'' :: rest =>
    let name := rest.takeWhile (· != '\'')
    match rest.dropWhile (· != '\'') with
    | _ :: behind => if name.isEmpty then none else some (some name, behind)
    | [] => none
  | _ =>
    let isNameChar (c : Char) : Bool := c != '=' && c != '#' && !isBlank c
    let name := text.takeWhile isNameChar
    if name.isEmpty then none else some (some name, text.dropWhile isNameChar)

/-- The text up to the closing quote and the text behind it. A backslash takes the character behind
it along, so that a quote there does not close. -/
def closeQuote? (quote : Char) : List Char → Option (List Char × List Char)
  | '\\' :: c :: text => (closeQuote? quote text).map fun r => ('\\' :: c :: r.1, r.2)
  | c :: text =>
    if c == quote then some ([], text)
    else (closeQuote? quote text).map fun r => (c :: r.1, r.2)
  | [] => none

/-- The character that a letter behind a backslash stands for. -/
def escapedChar? (quote : Char) (c : Char) : Option Char :=
  if c == '\\' || c == '\'' then some c
  else if quote == '\'' then none
  else
    match c with
    | '"' => some '"'
    | 'a' => some (Char.ofNat 7)
    | 'b' => some (Char.ofNat 8)
    | 'f' => some (Char.ofNat 12)
    | 'n' => some '\n'
    | 'r' => some '\r'
    | 't' => some '\t'
    | 'v' => some (Char.ofNat 11)
    | _ => none

/-- The text that a text in quotes means. -/
def unescape (quote : Char) : List Char → List Char
  | '\\' :: c :: text =>
    match escapedChar? quote c with
    | some e => e :: unescape quote text
    | none => '\\' :: unescape quote (c :: text)
  | c :: text => c :: unescape quote text
  | [] => []

/-- The text before white space and a comment mark. -/
def cutNote : List Char → List Char
  | [] => []
  | c :: text =>
    if isBlank c && (text.dropWhile isBlank).head? == some '#' then [] else c :: cutNote text

/-- The value behind an equals sign and the text behind it. -/
def variableValue? (text : List Char) : Option (List Char × List Char) :=
  match text.dropWhile isGapInLine with
  | '\'' :: rest => (closeQuote? '\'' rest).map fun r => (unescape '\'' r.1, r.2)
  | '"' :: rest => (closeQuote? '"' rest).map fun r => (unescape '"' r.1, r.2)
  | _ => some (trim (cutNote (text.takeWhile (!isLineEnd ·))), text.dropWhile (!isLineEnd ·))

/-- The text behind a comment, white space and a line end, when nothing else stands before it. -/
def afterLine? (text : List Char) : Option (List Char) :=
  let text := match text.dropWhile isGapInLine with
    | '#' :: rest => rest.dropWhile (!isLineEnd ·)
    | rest => rest
  match text with
  | [] => some []
  | '\r' :: '\n' :: rest => some rest
  | c :: rest => if isLineEnd c then some rest else none

/-- A variable of a line: its name, and its value if it has one. -/
abbrev Variable := List Char × Option (List Char)

/-- The text behind the line that the text starts in. -/
def skipLine (text : List Char) : List Char :=
  (text.dropWhile (!isLineEnd ·)).drop 1

/-- What stands behind the name of a variable: its value, if it has one, and the text behind. -/
def assignedValue? (text : List Char) : Option (Option (List Char) × List Char) :=
  match text.dropWhile isGapInLine with
  | '=' :: rest => (variableValue? rest).map fun r => (some r.1, r.2)
  | rest => some (none, rest)

/-- Reads a line: the variable that it sets, if any, and the text behind it. From where a line does
not fit, the rest of it is passed over. -/
def variableLine (text : List Char) : Option Variable × List Char :=
  match variableName? (skipExport text) with
  | none => (none, skipLine text)
  | some (name, behindName) =>
    match assignedValue? behindName with
    | none => (none, skipLine behindName)
    | some (value, behindValue) =>
      match afterLine? behindValue with
      | none => (none, skipLine behindValue)
      | some rest => (name.map (·, value), rest)

/-- The variables that lines set, in order; `fuel` bounds the number of lines. -/
def assignments : (fuel : Nat) → List Char → List Variable
  | 0, _ => []
  | fuel + 1, text =>
    match trimLeft text with
    | [] => []
    | c :: rest =>
      let (found, rest) := variableLine (c :: rest)
      found.toList ++ assignments fuel rest

/-! ### Variables in values -/

/-- A variable that a value names, what stands for it when it is not set, and how many characters of
the value name it. -/
structure Mention where
  name : String
  default : String
  width : Nat

/-- The mention that a text starts with. -/
def mention? : List Char → Option Mention
  | '$' :: '\x7b' :: text =>
    let name := text.takeWhile fun c => c != '\x7d' && c != ':'
    match text.drop name.length with
    | '\x7d' :: _ => some ⟨String.ofList name, "", name.length + 3⟩
    | ':' :: '-' :: text =>
      let default := text.takeWhile (· != '\x7d')
      if default.length < text.length then
        some ⟨String.ofList name, String.ofList default, name.length + default.length + 5⟩
      else none
    | _ => none
  | _ => none

/-- A value with what the variables in it stand for, behind `skip` characters that are done. -/
def expand (value? : String → Option String) : (skip : Nat) → List Char → List Char
  | _, [] => []
  | skip + 1, _ :: text => expand value? skip text
  | 0, c :: text =>
    match mention? (c :: text) with
    | some mention =>
      ((value? mention.name).getD mention.default).toList ++ expand value? (mention.width - 1) text
    | none => c :: expand value? 0 text

/-- The names of the variables that a text mentions. -/
def mentionedNames : List Char → List String
  | [] => []
  | c :: text => ((mention? (c :: text)).map Mention.name).toList ++ mentionedNames text

/-! ### Settings from variables -/

/-- The variables of a file, each with its value if it has one. -/
abbrev FileVariables := List (String × Option String)

/-- The variables with one more set: in place of one of the same name, or behind all. -/
def setVariable (name : String) (value : Option String) : FileVariables → FileVariables
  | [] => [(name, value)]
  | entry :: entries =>
    if entry.1 = name then (name, value) :: entries else entry :: setVariable name value entries

/-- What a name in a value stands for: a variable that is set without a value is empty. -/
def standsFor (environment : List (String × String)) (entries : FileVariables) (name : String) :
    Option String :=
  match entries.lookup name with
  | some value => some (value.getD "")
  | none => (environment.reverse.lookup name)

/-- The variables of a file, each name once, in the order of their first lines. -/
def fileVariables (environment : List (String × String)) (text : List Char) : FileVariables :=
  let text := if text.head? = some (Char.ofNat 0xfeff) then text.tail else text
  (assignments (text.length + 1) text).foldl
    (fun entries v =>
      let value := v.2.map fun value =>
        String.ofList (expand (standsFor environment entries) 0 value)
      setVariable (String.ofList v.1) value entries) []

/-- The value of the last variable with a name in lower case. -/
def lastValue? (entries : FileVariables) (name : String) : Option String :=
  ((entries.reverse.find? (lower ·.1 == name)).bind (·.2))

/-- The settings of the environment. -/
structure Environment where
  repoPath : Option String := none
  logLevel : String := "INFO"
  deriving DecidableEq, Repr

/-- The settings in the variables of the environment and the text of a variables file. -/
def Environment.of (environment : List (String × String)) (file : Option (List Char)) :
    Environment :=
  let own := environment.map fun v => (v.1, some v.2)
  let fromFile := (file.map (fileVariables environment)).getD []
  let value? (name : String) : Option String := lastValue? own name <|> lastValue? fromFile name
  { repoPath := value? "goscope_repo_path"
    logLevel := (value? "goscope_log_level").getD "INFO" }

end GoIndex
