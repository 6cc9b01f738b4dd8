import GoIndex.Data.Binary64.Basic
import GoIndex.Text.Blank

/-!
# Numbers in text

A number is written with decimal digits of any script, of which some may stand behind a point, and
perhaps with an exponent of ten. White space may surround it, and a sign may stand in front. The
words for what is no finite number are taken in any case.
-/

namespace GoIndex.Data.Binary64

open Text

/-- An exponent of ten behind its letter; nothing counts as zero. -/
def exponentOf? : List Char → Option Int
  | [] => some 0
  | e :: rest =>
    let (down, digits) := splitSign rest
    if (e == 'e' || e == 'E') && !digits.isEmpty then
      (digits.mapM decimalDigit?).map fun ds => signed down (ofDigits 10 ds)
    else none

/-- The number that digits with a point and an exponent write. -/
def sizeOf? (negative : Bool) (text : List Char) : Option Binary64 :=
  let isDecimal (c : Char) : Bool := (decimalDigit? c).isSome
  let whole := text.takeWhile isDecimal
  let (fraction, behind) := match text.dropWhile isDecimal with
    | '.' :: rest => (rest.takeWhile isDecimal, rest.dropWhile isDecimal)
    | rest => ([], rest)
  if whole.isEmpty && fraction.isEmpty then none
  else
    (exponentOf? behind).map fun power =>
      ofDecimal negative (ofDigits 10 ((whole ++ fraction).filterMap decimalDigit?))
        (power - fraction.length)

/-- The number that a text writes. -/
def read? (text : List Char) : Option Binary64 :=
  let (negative, size) := splitSign (trimRightOf isSpace (trimLeftOf isSpace text))
  let word := String.ofList (size.map Char.toLower)
  if word == "inf" || word == "infinity" then some (.infinite negative)
  else if word == "nan" then some .undefined
  else sizeOf? negative size

end GoIndex.Data.Binary64
