import GoIndex.Data.Yaml.Meaning
import GoIndex.Declaration
import GoIndex.Settings.Validation
import GoIndex.Text.Quoted
import GoIndex.Text.Undecodable
import GoIndex.Tree.Path

/-!
# Faults

What can go wrong, by its cause. Some causes have no message of their own.
-/

namespace GoIndex

open Data Text

/-- Why there is no answer. -/
inductive Fault where
  /-- A position lies outside a list of lines. -/
  | outOfRange
  /-- A text names no kind of declaration. -/
  | unknownKind (label : String)
  /-- A file cannot be read. -/
  | unreadable
  /-- A path cannot be used. -/
  | unusable (fault : PathFault)
  /-- A directory stands where a file is to be read. -/
  | isDirectory
  /-- The bytes of a file are no text. -/
  | undecodable (fault : DecodingFault)
  /-- Settings do not fit. -/
  | invalid (issues : List Issue)
  /-- A settings file is malformed. -/
  | malformed
  /-- A scalar of a settings file does not mean what its tag says. -/
  | meaningless (fault : Yaml.ScalarFault)
  /-- A mapping of a settings file stands for the text of a date. -/
  | mappedDate
  /-- A text of a settings file lies too deep in mappings. -/
  | buriedText
  /-- Settings are too deep to be laid over each other. -/
  | tooDeep
  /-- A top-level key of the settings is no text. -/
  | nonTextKey
  /-- A text names no level of log lines. -/
  | unknownLevel (level : String)
  /-- A message has a tag that closes nothing. -/
  | strayTag
  deriving DecidableEq, Repr

/-- What is said about a fault. -/
def Fault.message? : Fault → Option String
  | .outOfRange => some "list index out of range"
  | .unknownKind label => some (quoted label ++ " is not a valid DeclarationKind")
  | .unreadable => some "No such file or directory"
  | .unusable fault => some fault.message
  | .isDirectory => some "Is a directory"
  | .undecodable fault => some fault.message
  | .invalid _ => none
  | .malformed => none
  | .meaningless fault => some fault.message
  | .mappedDate => none
  | .buriedText => some "maximum recursion depth exceeded"
  | .tooDeep => some "maximum recursion depth exceeded while calling a Python object"
  | .nonTextKey => none
  | .unknownLevel level => some ("Unknown level: " ++ quoted level)
  | .strayTag => none

/-- A fault described for a reader. -/
def Fault.description : Fault → String
  | .invalid issues =>
    "Invalid settings: " ++
      ", ".intercalate (issues.map fun issue => issue.place ++ " (" ++ issue.flaw.label ++ ")")
  | .malformed => "Malformed settings file"
  | .mappedDate => "Settings have a mapping for a date"
  | .nonTextKey => "Settings have a key that is no text"
  | .strayTag => "A message has a tag that closes nothing"
  | fault => fault.message?.getD ""

/-- The kind that a label names. -/
def Kind.read (label : String) : Except Fault Kind :=
  match Kind.ofLabel? label with
  | some kind => .ok kind
  | none => .error (.unknownKind label)

end GoIndex
