import GoIndex.Source.Block
import GoIndex.Source.Body

/-!
# Scanning a source text

A scan goes through the lines of a text once. A line that is a heading gives its declarations; an
interface, a struct or a group takes its whole block with it, and the scan goes on behind the block,
so that no line inside it is read as a heading. A function takes its heading only. Lines that are no
headings are passed over, and nothing is ever refused.
-/

namespace GoIndex.Source

open Text

/-- Where the lines of a scan come from, and how many lines a function header may have. -/
structure Origin where
  sourceFile : String
  module : String
  headerLimit : Nat

/-- The lines that a heading takes, itself first, and the lines that are left. -/
def Heading.extent : Heading → List Line → List Line × List Line
  | .interface _, lines => takeBlock .braces lines
  | .struct _, lines => takeBlock .braces lines
  | .group _, lines => takeBlock .parens lines
  | _, lines => (lines.take 1, lines.drop 1)

/-- A heading takes the line that it stands on. -/
theorem Heading.length_extent_lt (h : Heading) (line : Line) (rest : List Line) :
    (h.extent (line :: rest)).2.length < (line :: rest).length := by
  cases h <;> simp only [Heading.extent, takeBlock, List.drop_one, List.tail_cons] <;>
    first
    | exact length_takeBlockFrom_lt ..
    | simp

/-- A declaration without a block, members or value, below the lines `above`, nearest first. -/
def Origin.declaration (origin : Origin) (above : List Line) (kind : Kind)
    (name signature : List Char) : Declaration where
  name := String.ofList name
  kind := kind
  sourceFile := origin.sourceFile
  module := origin.module
  signature := String.ofList signature
  lineNumber := above.length + 1
  documentation := (documentation above).map String.ofList

/-- The declaration of an interface or a struct with its block. -/
def Origin.composite (origin : Origin) (above : List Line) (kind : Kind) (name : List Char)
    (line : Line) (block : List Line) (members : List Member) : Declaration :=
  { origin.declaration above kind name (trim line) with
    fullBlock := some (String.ofList (unlines block))
    members := members }

/-- The declaration of an entry of a group that opens below the lines `above`; `distance` is how
far behind the opening line the entry stands. -/
def Origin.grouped (origin : Origin) (above : List Line) (kind : Kind) (entry : Entry)
    (distance : Nat) : Declaration :=
  { origin.declaration above kind entry.name entry.text with
    lineNumber := above.length + 1 + distance
    literalValue := entry.literal.map String.ofList }

/-- The declarations that a heading gives on the line `line`, with the lines `rest` behind it and
the lines `above` before it, nearest first. -/
def Heading.declarations (origin : Origin) (above : List Line) (line : Line) (rest : List Line)
    (h : Heading) : List Declaration :=
  let block := (h.extent (line :: rest)).1
  match h with
  | .interface name =>
    [origin.composite above .interface name line block (interfaceMembers block)]
  | .struct name =>
    [origin.composite above .struct name line block (structMembers block)]
  | .type name _ value =>
    [{ origin.declaration above .type name (trim line) with
        literalValue := some (String.ofList (trim value)) }]
  | .method _ name =>
    [origin.declaration above .method name (signature origin.headerLimit (line :: rest))]
  | .function name =>
    [origin.declaration above .function name (signature origin.headerLimit (line :: rest))]
  | .group kind =>
    ((groupEntries block).filter (isExported ·.1.name)).map fun r =>
      origin.grouped above kind.kind r.1 r.2
  | .single kind name value =>
    [{ origin.declaration above kind.kind name (trim line) with
        literalValue := (literalOf? value).map String.ofList }]

/-- The declarations in the lines below `above`, which has the nearest line first. -/
def scanLines (origin : Origin) (above : List Line) : List Line → List Declaration
  | [] => []
  | line :: rest =>
    match Heading.ofLine? (trim line) with
    | none => scanLines origin (line :: above) rest
    | some h =>
      h.declarations origin above line rest ++
        scanLines origin ((h.extent (line :: rest)).1.reverse ++ above) (h.extent (line :: rest)).2
termination_by lines => lines.length
decreasing_by
  · exact Nat.lt_succ_self rest.length
  · exact h.length_extent_lt line rest

/-- The declarations in a text, in source order. -/
def scan (origin : Origin) (text : List Char) : List Declaration :=
  scanLines origin [] (lines text)

end GoIndex.Source
