/-!
# Declarations

What an index holds: the exported top-level declarations of a source tree, each with its kind, its
place, its text and, for an interface or a struct, its members.
-/

namespace GoIndex

/-! ### Kinds -/

/-- The kinds of declaration, in the order in which they are listed. -/
inductive Kind where
  | interface
  | struct
  | type
  | function
  | method
  | const
  | var
  deriving DecidableEq, Repr

/-- Every kind, in order. -/
def Kind.all : List Kind :=
  [.interface, .struct, .type, .function, .method, .const, .var]

/-- How a kind is written. -/
def Kind.label : Kind → String
  | .interface => "interface"
  | .struct => "struct"
  | .type => "type"
  | .function => "function"
  | .method => "method"
  | .const => "const"
  | .var => "variable"

/-- The kind with a label. -/
def Kind.ofLabel? (label : String) : Option Kind :=
  Kind.all.find? (·.label == label)

/-- Functions and methods. -/
def Kind.isCallable : Kind → Bool
  | .function | .method => true
  | _ => false

/-- Interfaces and structs. -/
def Kind.isComposite : Kind → Bool
  | .interface | .struct => true
  | _ => false

/-- Constants and variables. -/
def Kind.isValue : Kind → Bool
  | .const | .var => true
  | _ => false

/-- Interfaces, structs and other types, which may embed types. -/
def Kind.isType : Kind → Bool
  | .interface | .struct | .type => true
  | _ => false

theorem Kind.mem_all (kind : Kind) : kind ∈ Kind.all := by
  cases kind <;> decide

theorem Kind.nodup_all : Kind.all.Nodup := by
  decide

/-! ### Members and declarations -/

/-- A field of a struct or a method of an interface. The last two marks are reserved: no Go
declaration sets them. -/
structure Member where
  name : String
  type : String
  parameters : List String := []
  returnType : String := ""
  isMethod : Bool := false
  isCallSignature : Bool := false
  isIndexSignature : Bool := false
  deriving DecidableEq, Repr

/-- An exported top-level declaration. Lines are numbered from one. -/
structure Declaration where
  name : String
  kind : Kind
  sourceFile : String
  module : String
  signature : String
  lineNumber : Int
  fullBlock : Option String := none
  members : List Member := []
  documentation : Option String := none
  literalValue : Option String := none
  deriving DecidableEq, Repr

/-- The text of a declaration: its block when there is one with text in it, else its signature. -/
def Declaration.text (d : Declaration) : String :=
  match d.fullBlock with
  | some block => if block.isEmpty then d.signature else block
  | none => d.signature

end GoIndex
