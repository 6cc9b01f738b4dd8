import GoIndex.Data.Binary64.Shortest
import GoIndex.Data.Value
import GoIndex.Text.Quoted
import GoIndex.Text.Utf8

/-!
# Values as JSON text

Values are written as JSON on one line or over several, two spaces deeper for each level. Characters
beyond ASCII are written as they are. A key that is no text is written as the text of its scalar.
-/

namespace GoIndex.Data

open Text

/-! ### Scalars -/

/-- A character inside a JSON string. -/
def jsonChar (c : Char) : List Char :=
  if c == '"' then ['\\', '"']
  else if c == '\\' then ['\\', '\\']
  else if c == '\x08' then ['\\', 'b']
  else if c == '\x0c' then ['\\', 'f']
  else if c == '\n' then ['\\', 'n']
  else if c == '\r' then ['\\', 'r']
  else if c == '\t' then ['\\', 't']
  else if c.toNat < 0x20 then '\\' :: 'u' :: hexDigits 4 c.toNat
  else [c]

/-- A letter inside a JSON string. -/
def jsonLetter : Letter → List Char
  | .char c => jsonChar c
  | .half code => '\\' :: 'u' :: hexDigits 4 code

/-- A JSON string. -/
def jsonString (text : Letters) : String :=
  String.ofList ('"' :: text.flatMap jsonLetter ++ ['"'])

/-- The text of a scalar. -/
def Scalar.letters : Scalar → Letters
  | .null => .ofString "null"
  | .bool value => .ofString (if value then "true" else "false")
  | .int value => .ofString (toString value)
  | .number value => .ofString value.render
  | .date spelling => .ofString spelling
  | .bytes content => .ofChars (decode content)
  | .text spelling => .ofString spelling
  | .broken spelling => spelling

/-- A scalar as JSON. -/
def Scalar.json : Scalar → String
  | .null => "null"
  | .bool value => if value then "true" else "false"
  | .int value => toString value
  | .number value => value.render
  | scalar => jsonString scalar.letters

/-! ### Layouts -/

/-- How the parts of a value are spread. -/
inductive Layout where
  | oneLine
  | indented
  deriving DecidableEq, Repr

/-- A break before the parts of a value at a depth. -/
def Layout.gap : Layout → Nat → String
  | .oneLine, _ => ""
  | .indented, depth => "\n" ++ String.ofList (List.replicate (2 * depth) ' ')

/-- Parts between brackets. -/
def Layout.enclose (layout : Layout) (depth : Nat) (left right : Char) (parts : List String) :
    String :=
  if parts.isEmpty then String.ofList [left, right]
  else
    String.singleton left ++ layout.gap (depth + 1) ++
      ((if layout = .oneLine then ", " else ",") ++ layout.gap (depth + 1)).intercalate parts ++
      layout.gap depth ++ String.singleton right

mutual

/-- A value at a depth as JSON. -/
def Value.jsonAt (layout : Layout) (depth : Nat) : Value → String
  | .scalar value => value.json
  | .list items => layout.enclose depth '[' ']' (jsonItems layout (depth + 1) items)
  | .map entries => layout.enclose depth '{' '}' (jsonEntries layout (depth + 1) entries)

/-- The items of a list as JSON. -/
def jsonItems (layout : Layout) (depth : Nat) : List Value → List String
  | [] => []
  | item :: items => item.jsonAt layout depth :: jsonItems layout depth items

/-- The entries of a map as JSON. -/
def jsonEntries (layout : Layout) (depth : Nat) : Entries → List String
  | [] => []
  | (key, value) :: entries =>
    (jsonString key.letters ++ ": " ++ value.jsonAt layout depth) ::
      jsonEntries layout depth entries

end

/-- A value as JSON. -/
def Value.json (layout : Layout) (value : Value) : String :=
  value.jsonAt layout 0

end GoIndex.Data
