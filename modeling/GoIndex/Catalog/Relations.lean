import GoIndex.Catalog.Basic
import GoIndex.Text.Blank
import GoIndex.Text.Lines
import GoIndex.Text.Word

/-!
# Relations between declarations

Relations are read off the text. The parents of a type are the exported names that stand alone on a
line of its text, as embedded types do; the children of a declaration are the others whose text
mentions its name, in any case.
-/

namespace GoIndex

open Text

/-- A declaration with the names of its parents and children. -/
structure Relations where
  target : Declaration
  parents : List String
  children : List String

/-- Whether a trimmed line is an exported name and nothing else. -/
def isEmbedded (line : Line) : Bool :=
  isExported line && line.all isAsciiWord

/-- The names that a declaration embeds, ascending. -/
def Declaration.parents (d : Declaration) : List String :=
  if d.kind.isType then
    ascending ((((d.text.toList.splitOn '\n').map trim).filter isEmbedded).map String.ofList)
  else []

/-- Whether the text of a declaration mentions a name in any case. -/
def Declaration.mentions (d : Declaration) (name : String) : Bool :=
  occursIn (lowerChars name.toList) (lowerChars d.text.toList)

/-- The names of the other declarations that mention a name, ascending. -/
def Catalog.children (catalog : Catalog) (name : String) : List String :=
  ascending ((List.filter (fun d => d.name != name && d.mentions name) catalog).map (·.name))

/-- The relations of the declaration that a name finds. -/
def Catalog.relations? (catalog : Catalog) (name : String) : Option Relations :=
  (catalog.named? name).map fun target => ⟨target, target.parents, catalog.children target.name⟩

end GoIndex
