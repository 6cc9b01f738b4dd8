import GoIndex.Data.Binary64.Basic
import GoIndex.Text.Letter

/-!
# Data values

The values that settings files hold and that reports are made of: scalars, lists, and maps from
scalars to values. The entries of a map have an order, and each key stands in it once. Two scalars
are one key when they have the same `Scalar.asKey`: a truth value is the key one or zero, and a
number without a fraction is an integer.

`mergeEntries` lays one map over another: where both have a map under a key, these are laid over
each other in turn, and elsewhere the upper value stands.
-/

namespace GoIndex.Data

open Text

/-- A value without parts. A text is broken when there are halves of characters in it. -/
inductive Scalar where
  | null
  | bool (value : Bool)
  | int (value : Int)
  | number (value : Binary64)
  | date (text : String)
  | bytes (bytes : List UInt8)
  | text (text : String)
  | broken (text : Letters)
  deriving DecidableEq, Repr

/-- The text that letters are. -/
def Scalar.ofLetters (letters : Letters) : Scalar :=
  (letters.toString?.map Scalar.text).getD (.broken letters)

/-- The scalar that stands for all that are the same key. -/
def Scalar.asKey : Scalar → Scalar
  | .bool value => .int (if value then 1 else 0)
  | .number value => (value.whole?.map Scalar.int).getD (.number value)
  | scalar => scalar

/-- A data value. -/
inductive Value where
  | scalar (value : Scalar)
  | list (items : List Value)
  | map (entries : List (Scalar × Value))

/-- The entries of a map. -/
abbrev Entries := List (Scalar × Value)

/-- The value under a key. -/
def valueAt? (key : Scalar) : Entries → Option Value
  | [] => none
  | entry :: entries =>
    if entry.1.asKey = key.asKey then some entry.2 else valueAt? key entries

namespace Value

/-- The value that says that there is none. -/
def null : Value := .scalar .null

/-- A text. -/
def text (text : String) : Value := .scalar (.text text)

/-- An integer. -/
def int (value : Int) : Value := .scalar (.int value)

/-- A truth value. -/
def bool (value : Bool) : Value := .scalar (.bool value)

/-- A list of texts. -/
def texts (texts : List String) : Value := .list (texts.map text)

/-- A text or nothing. -/
def textOrNull (text? : Option String) : Value := (text?.map text).getD null

/-- A map with texts for keys. -/
def record (fields : List (String × Value)) : Value :=
  .map (fields.map fun field => (.text field.1, field.2))

/-- The entries of a map; any other value has none. -/
def entries : Value → Entries
  | .map entries => entries
  | _ => []

/-- The value under a text in a map. -/
def field? (value : Value) (name : String) : Option Value :=
  valueAt? (.text name) value.entries

end Value

/-! ### Laying maps over each other -/

/-- The entries with a value under a key: in place of the one that is there, or behind all. -/
def setEntry {α : Type} (key : Scalar) (value : α) : List (Scalar × α) → List (Scalar × α)
  | [] => [(key, value)]
  | entry :: entries =>
    if entry.1.asKey = key.asKey then (entry.1, value) :: entries
    else entry :: setEntry key value entries

mutual

/-- What stands where a value is laid over what was there. -/
def Value.over : (upper : Value) → (lower : Option Value) → Value
  | .map entries, some (.map base) => .map (mergeEntries base entries)
  | upper, _ => upper

/-- The entries of a map with the entries of another laid over them. -/
def mergeEntries (base : Entries) : (upper : Entries) → Entries
  | [] => base
  | (key, value) :: upper =>
    mergeEntries (setEntry key (value.over (valueAt? key base)) base) upper

end

theorem valueAt?_setEntry_of_eq {key other : Scalar} (h : other.asKey = key.asKey) (value : Value)
    (entries : Entries) : valueAt? other (setEntry key value entries) = some value := by
  induction entries with
  | nil => simp [setEntry, valueAt?, h]
  | cons entry entries ih =>
    by_cases hkey : entry.1.asKey = key.asKey
    · simp [setEntry, valueAt?, hkey, h]
    · simp [setEntry, valueAt?, hkey, h, ← ih]

@[simp]
theorem valueAt?_setEntry_self (key : Scalar) (value : Value) (entries : Entries) :
    valueAt? key (setEntry key value entries) = some value :=
  valueAt?_setEntry_of_eq rfl value entries

theorem valueAt?_setEntry_of_ne {key other : Scalar} (h : other.asKey ≠ key.asKey) (value : Value)
    (entries : Entries) : valueAt? other (setEntry key value entries) = valueAt? other entries := by
  induction entries with
  | nil => simp [setEntry, valueAt?, Ne.symm h]
  | cons entry entries ih =>
    by_cases hkey : entry.1.asKey = key.asKey
    · simp [setEntry, valueAt?, hkey, Ne.symm h]
    · simp [setEntry, valueAt?, hkey, ih]

end GoIndex.Data
