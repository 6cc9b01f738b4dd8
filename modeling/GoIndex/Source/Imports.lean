import GoIndex.Source.Heading
import GoIndex.Text.Lines

/-!
# Imports

The import paths of a source text, in order and with repetitions. An import stands on a line of its
own, or in parentheses: on one line with semicolons between the items, or on the lines up to a line
that is just the closing parenthesis. An item may have a name before its path; anything else is
passed over.
-/

namespace GoIndex.Source

open Text

/-- The word that starts an import. -/
def importWord : List Char := ['i', 'm', 'p', 'o', 'r', 't']

/-- A path in double quotes at the start of a text. -/
def quotedPath? (text : List Char) : Option (List Char) := do
  let rest ← after? ['"'] text
  let path := rest.takeWhile (· != '"')
  if path.isEmpty then none
  else (after? ['"'] (rest.dropWhile (· != '"'))).map fun _ => path

/-- The path of an item in parentheses, which may have a name before it. -/
def itemPath? (item : List Char) : Option (List Char) :=
  let named := (nameFrom? isNameStart item).bind fun r => (afterBlanks? r.2).bind quotedPath?
  named <|> quotedPath? item

/-- What a line says about imports. -/
inductive ImportLine where
  /-- An import of one path. -/
  | single (path : List Char)
  /-- Imports in parentheses that are closed on the same line. -/
  | inline (paths : List (List Char))
  /-- Opens parentheses. -/
  | opening
  deriving DecidableEq, Repr

/-- Reads a trimmed line outside parentheses. -/
def ImportLine.ofLine? (line : Line) : Option ImportLine := do
  let rest ← after? importWord line
  match (afterBlanks? rest).bind quotedPath? with
  | some path => some (.single path)
  | none =>
    let items ← after? ['('] (trimLeft rest)
    if items.contains ')' then
      some (.inline (((items.takeWhile (· != ')')).splitOn ';').filterMap (itemPath? <| trim ·)))
    else
      some .opening

/-- The import paths in lines; `inside` tells whether parentheses are open. -/
def importsFrom : (inside : Bool) → List Line → List (List Char)
  | _, [] => []
  | true, line :: rest =>
    let item := trim line
    if item = [')'] then importsFrom false rest
    else (itemPath? item).toList ++ importsFrom true rest
  | false, line :: rest =>
    match ImportLine.ofLine? (trim line) with
    | some (.single path) => path :: importsFrom false rest
    | some (.inline paths) => paths ++ importsFrom false rest
    | some .opening => importsFrom true rest
    | none => importsFrom false rest

/-- The import paths in a text. -/
def imports (text : List Char) : List String :=
  (importsFrom false (lines text)).map String.ofList

end GoIndex.Source
