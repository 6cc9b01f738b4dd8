import GoIndex.Catalog.Basic
import GoIndex.Text.Blank
import GoIndex.Text.Lines

/-!
# Ranking

A query is a list of terms in lower case. Each term leaves marks on a declaration, one for every
field that it is found in; a mark has a weight. The score of a declaration is the sum of the weights
of all marks, and its labels are the labels of the marks, each once, in the order of the marks. A
declaration without a mark is no hit, unless the query has no terms.

Hits are ordered by falling score, then by name, file and line.
-/

namespace GoIndex

open Text

/-! ### Marks -/

/-- What a term was found in. -/
inductive Label where
  | nameExact
  | name
  | signature
  | docs
  | file
  | module
  | kind
  deriving DecidableEq, Repr

/-- How a label is written. -/
def Label.text : Label → String
  | .nameExact => "name-exact"
  | .name => "name"
  | .signature => "signature"
  | .docs => "docs"
  | .file => "file"
  | .module => "module"
  | .kind => "kind"

/-- How much a find weighs. -/
def Label.weight : Label → Nat
  | .nameExact => 25
  | .name => 12
  | .signature => 6
  | .docs => 5
  | .file => 4
  | .module => 5
  | .kind => 4

/-- A label that a term leaves on a declaration, and its weight there. -/
structure Mark where
  label : Label
  weight : Nat
  deriving DecidableEq, Repr

/-- A mark with the usual weight of its label. -/
def Mark.of (label : Label) : Mark :=
  ⟨label, label.weight⟩

/-- The texts of a declaration in which terms are sought, in lower case. -/
structure SearchText where
  name : List Char
  fields : List (Label × List Char)

/-- The texts of a declaration in which terms are sought. -/
def Declaration.searchText (d : Declaration) : SearchText where
  name := lowerChars d.name.toList
  fields :=
    [(.signature, lowerChars d.signature.toList),
      (.docs, lowerChars (d.documentation.getD "").toList),
      (.file, lowerChars d.sourceFile.toList),
      (.module, lowerChars d.module.toList),
      (.kind, d.kind.label.toList)]

/-- The marks that a term leaves on a name. The exact name outweighs a part of it: it also leaves
the label of a part, but without a weight. -/
def nameMarks (name term : List Char) : List Mark :=
  if name = term then [.of .nameExact, ⟨.name, 0⟩]
  else if occursIn term name then [.of .name]
  else []

/-- The marks that a term leaves on a declaration. -/
def SearchText.marks (text : SearchText) (term : List Char) : List Mark :=
  nameMarks text.name term ++
    (text.fields.filter (occursIn term ·.2)).map (Mark.of ·.1)

/-! ### Hits -/

/-- A declaration with its score and labels. -/
structure Hit where
  declaration : Declaration
  score : Nat
  labels : List Label
  deriving DecidableEq, Repr

/-- The total weight of marks. -/
def scoreOf (marks : List Mark) : Nat :=
  marks.foldr (fun mark total => mark.weight + total) 0

/-- The labels of marks, each where it stands first. -/
def labelsOf (marks : List Mark) : List Label :=
  (marks.map (·.label)).eraseDups

/-- How terms rate a declaration. -/
def Hit.of (terms : List (List Char)) (d : Declaration) : Hit :=
  let text := d.searchText
  let marks := terms.flatMap text.marks
  ⟨d, scoreOf marks, labelsOf marks⟩

/-- Whether one hit may stand before another. -/
def Hit.before (a b : Hit) : Bool :=
  b.score < a.score || (a.score == b.score &&
    (a.declaration.name < b.declaration.name || (a.declaration.name == b.declaration.name &&
      (a.declaration.sourceFile < b.declaration.sourceFile ||
        (a.declaration.sourceFile == b.declaration.sourceFile &&
          a.declaration.lineNumber ≤ b.declaration.lineNumber)))))

/-- The terms of a query. -/
def termsOf (query : String) : List (List Char) :=
  words (lowerChars query.toList)

/-- Which declarations a search looks at; an empty module name is no restriction. -/
structure Scope where
  module : Option String := none
  kind : Option Kind := none

/-- Whether a search looks at a declaration. -/
def Scope.admits (scope : Scope) (d : Declaration) : Bool :=
  (scope.module.all fun m => m.isEmpty || lower d.module == lower m) &&
    scope.kind.all (d.kind == ·)

/-- All hits of terms, best first. -/
def Catalog.hits (catalog : Catalog) (terms : List (List Char)) : List Hit :=
  ((List.map (Hit.of terms) catalog).filter fun hit => terms.isEmpty || hit.score != 0).mergeSort
    Hit.before

/-- The best hits of a query within a scope. -/
def Catalog.search (catalog : Catalog) (query : String) (limit : Int) (scope : Scope) : List Hit :=
  atMost limit (Catalog.hits (List.filter scope.admits catalog) (termsOf query))

/-! ### Topics -/

/-- How often each member of a list stands in it, most often first; members with equal counts in
the order in which they first appear. -/
def tally {α : Type} [BEq α] (xs : List α) : List (α × Nat) :=
  (xs.eraseDups.map fun x => (x, xs.count x)).mergeSort fun a b => b.2 ≤ a.2

/-- The hits of a topic and how they spread over modules and kinds. -/
structure Topic where
  topic : String
  hits : List Hit
  modules : List (String × Nat)
  kinds : List (Kind × Nat)

/-- Explores a topic. -/
def Catalog.topic (catalog : Catalog) (topic : String) (limit : Int) : Topic :=
  let hits := catalog.search topic limit {}
  { topic := topic
    hits := hits
    modules := tally (hits.map (·.declaration.module))
    kinds := tally (hits.map (·.declaration.kind)) }

end GoIndex
