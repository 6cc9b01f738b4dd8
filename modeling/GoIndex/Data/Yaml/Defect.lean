import GoIndex.Data.Yaml.Timestamp
import GoIndex.Text.Letter
import GoIndex.Text.Undecodable

/-!
# Defects of YAML texts

Why a text has no value: it is malformed, its bytes are no text, a scalar in it does not mean what
its tag says, or a mapping stands for a scalar where none can. A fault of a scalar is described by
what could not be done with its text.
-/

namespace GoIndex.Data.Yaml

open Text

/-- Why a scalar has no meaning. -/
inductive ScalarFault where
  /-- A text is no numeral of a base. -/
  | notInteger (base : Nat) (text : Letters)
  /-- A numeral has more digits than are read. -/
  | tooManyDigits (count : Nat)
  /-- A text is no number. -/
  | notNumber (text : Letters)
  /-- A place of base sixty weighs more than any number. -/
  | placeTooLarge
  /-- An escape gives a code beyond all characters. -/
  | noCharacter (code : Nat)
  /-- A number has no text. -/
  | noText
  /-- A text is no spelling of a truth value. -/
  | notTruth (text : Letters)
  /-- A text has not the form of a date. -/
  | notDate
  /-- A date lies outside the calendar. -/
  | calendar (fault : CalendarFault)
  deriving DecidableEq, Repr

/-- The least code that is not even looked at. -/
def codeLimit : Nat := 0x80000000

/-- Whether a fault is that a number is too large for what it is used for. -/
def ScalarFault.isOverflow : ScalarFault → Bool
  | .placeTooLarge => true
  | .noCharacter code => codeLimit ≤ code
  | _ => false

/-- What is said about a fault. -/
def ScalarFault.message : ScalarFault → String
  | .notInteger base text =>
    "invalid literal for int() with base " ++ toString base ++ ": " ++
      String.ofList (text.quoted.toList.take 200)
  | .tooManyDigits count =>
    "Exceeds the limit (" ++ toString maxDigits ++ " digits) for integer string conversion: " ++
      "value has " ++ toString count ++
      " digits; use sys.set_int_max_str_digits() to increase the limit"
  | .notNumber text => "could not convert string to float: " ++ text.quoted
  | .placeTooLarge => "int too large to convert to float"
  | .noCharacter code =>
    if codeLimit ≤ code then "Python int too large to convert to C int"
    else "chr() arg not in range(0x110000)"
  | .noText => "string index out of range"
  | .notTruth text => text.quoted
  | .notDate => "'NoneType' object has no attribute 'groupdict'"
  | .calendar fault => fault.message

/-- Why a text has no value. -/
inductive Defect where
  | malformed
  | undecodable (fault : DecodingFault)
  | scalar (fault : ScalarFault)
  /-- A mapping stands for the text of a date. -/
  | mappedDate
  /-- The text of a scalar lies too deep in mappings. -/
  | buriedText
  deriving DecidableEq, Repr

/-- What is there in a text that is not malformed. -/
def wellFormed {α : Type} : Option α → Except Defect α
  | some a => .ok a
  | none => .error .malformed

end GoIndex.Data.Yaml
