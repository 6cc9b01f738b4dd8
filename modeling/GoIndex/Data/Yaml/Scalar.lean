import GoIndex.Data.Binary64.Numeral
import GoIndex.Data.Value
import GoIndex.Data.Yaml.Defect
import GoIndex.Data.Yaml.Tag
import GoIndex.Text.Base64

/-!
# Scalars of YAML

What the text of a scalar means under a tag. A text whose tag follows from its form may still mean
nothing, and one whose tag was written before it may be any text.

A number may have underscores anywhere and is written in base two, eight, ten, sixteen or sixty. The
places of base sixty have colons between them.
-/

namespace GoIndex.Data.Yaml

open Text

/-- A meaning, or why there is none. -/
abbrev Meaning := Except ScalarFault

/-! ### Integers -/

/-- Whether a minus stands in front of a text, and the text behind a sign in front. -/
def signOf : Letters → Bool × Letters
  | .char '-' :: text => (true, text)
  | .char '+' :: text => (false, text)
  | text => (false, text)

/-- The integer that a numeral of a base writes. -/
def numeral (base : Nat) (text : Letters) : Meaning Int :=
  (readNumeral base text.chars).mapError fun
    | .malformed => .notInteger base text
    | .tooManyDigits count => .tooManyDigits count

/-- The integer that places of base sixty write. -/
def sixties (text : Letters) : Meaning Int := do
  let places ← (text.splitOn (.char ':')).mapM (numeral 10)
  return places.foldl (fun sum place => 60 * sum + place) 0

/-- The size of an integer. A zero in front means base eight, or the base that a letter names. -/
def wholeNumber (text : Letters) : Meaning Int :=
  match text with
  | [] => .error .noText
  | [.char '0'] => .ok 0
  | .char '0' :: .char 'b' :: digits => numeral 2 digits
  | .char '0' :: .char 'x' :: digits => numeral 16 digits
  | .char '0' :: _ => numeral 8 text
  | _ => if text.contains (.char ':') then sixties text else numeral 10 text

/-- The integer that a text means. -/
def integer (text : Letters) : Meaning Int :=
  let (negative, size) := signOf (text.filter (· != .char '_'))
  (wholeNumber size).map fun n => if negative then -n else n

/-! ### Numbers with a point -/

/-- The number that a text writes. -/
def decimal (text : Letters) : Meaning Binary64 :=
  match Binary64.read? text.chars with
  | some number => .ok number
  | none => .error (.notNumber text)

/-- The places of base sixty added up from the last on, rounding as it goes. A place whose weight is
no finite number is too large. -/
def weighed : (base : Nat) → (sum : Binary64) → (places : List Binary64) → Meaning Binary64
  | _, sum, [] => .ok sum
  | base, sum, place :: places =>
    match Binary64.ofNat base with
    | .finite negative significand exponent =>
      weighed (60 * base) (sum.add (place.mul (.finite negative significand exponent))) places
    | _ => .error .placeTooLarge

/-- The size of a number with a point. -/
def pointNumber (text : Letters) : Meaning Binary64 :=
  if text = .ofString ".inf" then .ok (.infinite false)
  else if text = .ofString ".nan" then .ok .undefined
  else if text.contains (.char ':') then do
    let places ← (text.splitOn (.char ':')).mapM decimal
    weighed 1 (.zero false) places.reverse
  else decimal text

/-- The number that a text means. -/
def number (text : Letters) : Meaning Binary64 :=
  let text := Letters.lower (text.filter (· != .char '_'))
  let (negative, size) := signOf text
  if text.isEmpty then .error .noText
  else (pointNumber size).map fun n => if negative then n.negate else n

/-! ### Other scalars -/

/-- The truth value that a text means. -/
def truth (text : Letters) : Meaning Bool :=
  let word := text.lower
  if (["yes", "true", "on"].map Letters.ofString).contains word then .ok true
  else if (["no", "false", "off"].map Letters.ofString).contains word then .ok false
  else .error (.notTruth word)

/-- The date that a text means; a line feed may stand at its end. -/
def date (text : List Char) : Meaning String :=
  let form := if text.getLast? = some '\n' then text.dropLast else text
  match (Timestamp.read? form).map Timestamp.fault? with
  | none => .error .notDate
  | some (some fault) => .error (.calendar fault)
  | some none => .ok (String.ofList form)

/-- What a text means under a tag. A tag of several parts has no scalars. -/
def Tag.read (tag : Tag) (letters : Letters) : Except Defect Scalar :=
  let meaning (scalar : Meaning Scalar) : Except Defect Scalar := scalar.mapError .scalar
  match tag with
  | .null => .ok .null
  | .bool => meaning ((truth letters).map .bool)
  | .int => meaning ((integer letters).map .int)
  | .float => meaning ((number letters).map .number)
  | .timestamp => meaning ((date letters.chars).map .date)
  | .binary =>
    if letters.all fun letter => letter.char?.any (·.toNat < 128) then
      (wellFormed (ofBase64? letters.chars)).map .bytes
    else .error .malformed
  | .str => .ok (.ofLetters letters)
  | _ => .error .malformed

end GoIndex.Data.Yaml
