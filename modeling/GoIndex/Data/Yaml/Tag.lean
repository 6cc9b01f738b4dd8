import GoIndex.Data.Yaml.Timestamp

/-!
# Tags of YAML nodes

The tag of a node says what kind of value it stands for. It is written before the node, or it
follows from the form of a plain scalar under the rules of YAML 1.1: nothing, a truth value, an
integer of one of five notations, a number with a point, a date or a time, one of two words with a
meaning in mappings, one of three words that are kept, or, when it has none of these forms, a text.
-/

namespace GoIndex.Data.Yaml

open Text

/-- What a node stands for. -/
inductive Tag where
  | null
  | bool
  | int
  | float
  | timestamp
  | binary
  | str
  | seq
  | map
  | set
  | omap
  | pairs
  | merge
  | value
  | unknown
  deriving DecidableEq, Repr

/-- What the names of all known tags start with. -/
def knownStem : List Char := "tag:yaml.org,2002:".toList

/-- The tag with a name. -/
def Tag.ofName (name : List Char) : Tag :=
  if knownStem.isPrefixOf name then
    match String.ofList (name.drop knownStem.length) with
    | "null" => .null
    | "bool" => .bool
    | "int" => .int
    | "float" => .float
    | "timestamp" => .timestamp
    | "binary" => .binary
    | "str" => .str
    | "seq" => .seq
    | "map" => .map
    | "set" => .set
    | "omap" => .omap
    | "pairs" => .pairs
    | "merge" => .merge
    | "value" => .value
    | _ => .unknown
  else .unknown

/-! ### Words -/

/-- The spellings of nothing. -/
def nullWords : List String := ["", "~", "null", "Null", "NULL"]

/-- The spellings of truth values. -/
def boolWords : List String :=
  ["yes", "Yes", "YES", "no", "No", "NO", "true", "True", "TRUE", "false", "False", "FALSE", "on",
    "On", "ON", "off", "Off", "OFF"]

/-! ### Forms of numbers -/

/-- The value of a hexadecimal digit. -/
def hexDigit? (c : Char) : Option Nat :=
  if c.isDigit then some (c.toNat - 48)
  else if 'a' ≤ c && c ≤ 'f' then some (c.toNat - 87)
  else if 'A' ≤ c && c ≤ 'F' then some (c.toNat - 55)
  else none

/-- Whether a character is a digit of a base or an underscore. -/
def isLoose (base : Nat) (c : Char) : Bool :=
  c == '_' || (hexDigit? c).any (· < base)

/-- Whether a text starts with a decimal digit. -/
def startsWithDigit (text : List Char) : Bool :=
  text.head?.any (·.isDigit)

/-- Whether a text is one of the sixty parts of a larger one: one digit, or two of which the first
is at most five. -/
def isSixtieth (text : List Char) : Bool :=
  match text.mapM asciiDigit? with
  | some [_] => true
  | some [m, _] => m ≤ 5
  | _ => false

/-- Whether a text consists of at least one place of base sixty, each behind a colon. -/
def arePlaces (text : List Char) : Bool :=
  match text.splitOn ':' with
  | [] :: first :: rest => (first :: rest).all isSixtieth
  | _ => false

/-- Whether a text has the form of an integer. A zero in front means base eight. -/
def isIntegerForm (text : List Char) : Bool :=
  let size := (splitSign text).2
  match size with
  | '0' :: 'b' :: digits => !digits.isEmpty && digits.all (isLoose 2)
  | '0' :: 'x' :: digits => !digits.isEmpty && digits.all (isLoose 16)
  | '0' :: digits => digits.all (isLoose 8)
  | _ =>
    let further := size.dropWhile (isLoose 10)
    startsWithDigit size && (further.isEmpty || arePlaces further)

/-- Whether a text is an exponent of ten with its sign, or nothing. -/
def isExponent : List Char → Bool
  | [] => true
  | e :: sign :: digits =>
    (e == 'e' || e == 'E') && (sign == '+' || sign == '-') && !digits.isEmpty &&
      digits.all (·.isDigit)
  | _ => false

/-- Whether a text has the form of a number with a point, or is one of the words for what is no
finite number. -/
def isNumberForm (text : List Char) : Bool :=
  let size := (splitSign text).2
  let whole := size.takeWhile (· != '.')
  let behind := (size.dropWhile (· != '.')).drop 1
  let rest := behind.dropWhile (isLoose 10)
  if whole.length = size.length then false
  else if whole.isEmpty then
    [".inf", ".Inf", ".INF"].contains (String.ofList size) ||
      (size.length == text.length &&
        ([".nan", ".NaN", ".NAN"].contains (String.ofList size) ||
          (startsWithDigit behind && isExponent rest)))
  else
    let further := whole.dropWhile (isLoose 10)
    startsWithDigit whole &&
      (if further.isEmpty then isExponent rest else arePlaces further && rest.isEmpty)

/-! ### Plain scalars -/

/-- The word that takes over the pairs of other mappings. -/
def mergeWord : List Char := ['<', '<']

/-- The word that stands for a default value. -/
def valueWord : List Char := ['=']

/-- The words of one mark that are kept for a use of their own; such a word has no value. -/
def keptWords : List (List Char) := [['!'], ['&'], ['*']]

/-- The tag that follows from the form of a scalar. A line feed at its end is no part of its form,
unless it is all there is. -/
def Tag.ofForm (text : List Char) : Tag :=
  let form := if text.getLast? = some '\n' ∧ text.length ≠ 1 then text.dropLast else text
  if nullWords.contains (String.ofList form) then .null
  else if boolWords.contains (String.ofList form) then .bool
  else if isNumberForm form then .float
  else if isIntegerForm form then .int
  else if isTimestampForm form then .timestamp
  else if form = mergeWord then .merge
  else if form = valueWord then .value
  else if keptWords.contains form then .unknown
  else .str

end GoIndex.Data.Yaml
