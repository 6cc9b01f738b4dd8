import GoIndex.Data.Yaml.Meaning
import GoIndex.Fault
import GoIndex.Tree.Basic

/-!
# Loading settings

Settings come from two files, one of the user and one of the project, laid over each other: what the
project sets goes before. A file that is missing, or that holds no map, sets nothing.

A settings file is read in chunks of bytes, and only as far as its text is looked at. Of the values
in it no more is looked at than the items of a list in a section.
-/

namespace GoIndex

open Data Text

/-! ### Documents -/

/-- What a settings file with this text stands for; none when the file is missing. -/
def readDocument : Option Yaml.Source → Except Fault (Option Yaml.Document)
  | none => .ok none
  | some source =>
    match Yaml.parse source with
    | .ok document => .ok (some document)
    | .error .malformed => .error .malformed
    | .error (.undecodable fault) => .error (.undecodable fault)
    | .error (.scalar fault) => .error (.meaningless fault)
    | .error .mappedDate => .error .mappedDate
    | .error .buriedText => .error .buriedText

/-- The mappings below two mappings that are laid over each other in turn. -/
def metBelow (lower upper : Yaml.Document) (met : Nat × Nat) : List (Nat × Nat) :=
  (upper.entriesAt met.2).filterMap fun (key, n) => do
    let m ← ((lower.entriesAt met.1).find? (·.1.asKey == key.asKey)).map (·.2)
    if lower.isMapping m && upper.isMapping n then some (m, n) else none

/-- Whether mappings are still laid over each other after so many levels. -/
def meetAfter (lower upper : Yaml.Document) : (levels : Nat) → (met : List (Nat × Nat)) → Bool
  | 0, met => !met.isEmpty
  | levels + 1, met =>
    !met.isEmpty && meetAfter lower upper levels (met.flatMap (metBelow lower upper)).eraseDups

/-- How many levels of mappings are laid over each other. -/
def mergeLevels : Nat := 990

/-- Whether documents are too deep to be laid over each other. Two that lead back into themselves
under the same keys always are. -/
def meetTooDeep (lower upper : Yaml.Document) : Bool :=
  meetAfter lower upper mergeLevels [(lower.root, upper.root)]

/-! ### Layers -/

/-- Whether a key is a text. -/
def isTextKey : Scalar → Bool
  | .text _ => true
  | .broken _ => true
  | _ => false

/-- What is handed to validation: the entries of the project's file laid over those of the
user's. -/
def mergeLayers (user project : Entries) : Entries :=
  mergeEntries (mergeEntries [] user) project

/-- The settings in the entries of the user's file and of the project's. -/
def Settings.ofLayers (user project : Entries) : Except Fault Settings :=
  let merged := mergeLayers user project
  if merged.all (isTextKey ·.1) then
    match Settings.ofEntries merged with
    | .ok settings => .ok settings
    | .error issues => .error (.invalid issues)
  else .error .nonTextKey

/-- How deep the values of a section are looked at. -/
def sectionDepth : Nat := 3

/-- The settings that two documents give. -/
def Settings.ofDocuments (user project : Option Yaml.Document) : Except Fault Settings :=
  let entries (document : Option Yaml.Document) : Entries :=
    (document.map (·.entries sectionDepth)).getD []
  match user, project with
  | some lower, some upper =>
    if meetTooDeep lower upper then .error .tooDeep
    else Settings.ofLayers (entries user) (entries project)
  | _, _ => Settings.ofLayers (entries user) (entries project)

/-! ### Files -/

/-- How many bytes of a settings file are read at a time. -/
def chunkLength : Nat := 8192

/-- The text of the settings file that a node is; none when there is no such file. -/
def settingsSource : Option Node → Except Fault (Option Yaml.Source)
  | some (.file (.readable bytes)) =>
    match decodeChunks chunkLength bytes with
    | (text, none) => .ok (some (.ofText (plainLineEnds text)))
    | (text, some fault) => .ok (some (.ofBroken (plainLineEnds text) fault))
  | some (.directory _) => .error .isDirectory
  | some (.closed _) => .error .isDirectory
  | _ => .ok none

/-- The settings that the two files give. -/
def Settings.load (user project : Option Node) : Except Fault Settings := do
  let user ← readDocument (← settingsSource user)
  let project ← readDocument (← settingsSource project)
  Settings.ofDocuments user project

/-- The settings file of a project, as seen from its directory. -/
def settingsFile : Path := [".goscope", "config.yaml"]

end GoIndex
