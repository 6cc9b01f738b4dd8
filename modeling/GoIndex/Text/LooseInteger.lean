import GoIndex.Text.Integer

/-!
# Integers among signs, zeros and underscores

The plain form of an integer is a minus sign or none and ASCII digits that start with a zero only
when it is the only one. `looseInteger?` takes a text as it stands when it is a plain form, and else
with what may surround one left out, in this order: white space, zeros in front with underscores
among them, a fraction of zeros, and single underscores. A sign may stand before the zeros, and a
minus sign behind them, where no zeros follow it.

A plain form of more than `maxDigits` digits is not read.
-/

namespace GoIndex.Text

/-- Whether a character is a digit other than zero. -/
def isLeadingDigit (c : Char) : Bool :=
  c.isDigit && c != '0'

/-- A minus sign, if there is one, and the text behind it. -/
def splitMinus : List Char → Bool × List Char
  | '-' :: rest => (true, rest)
  | text => (false, text)

/-- Whether a text starts with an integer in its plain form that is longer than is read. -/
def startsTooLong (text : List Char) : Bool :=
  let size := (splitMinus text).2
  size.head?.any isLeadingDigit && maxDigits < (size.takeWhile (·.isDigit)).length

/-- The integer that a text is in its plain form: a minus sign or none, and digits that start with a
zero only when it is the only one. -/
def plainInteger? (text : List Char) : Option Int :=
  let (negative, size) := splitMinus text
  if size = ['0'] then some 0
  else if size.head?.any isLeadingDigit && !startsTooLong text then
    (size.mapM asciiDigit?).map fun digits => signed negative (ofDigits 10 digits)
  else none

/-- What follows a zero or an underscore in front of a number, without further ones. The last of
them stays when nothing or a point follows. -/
def afterZeros? (last : Char) : List Char → Option (List Char)
  | [] => some [last]
  | c :: rest =>
    if c == '0' || c == '_' then afterZeros? c rest
    else if c == '-' || isLeadingDigit c then some (c :: rest)
    else if c == '.' then some (last :: c :: rest)
    else none

/-- A number without zeros in front. -/
def dropZeros? : List Char → Option (List Char)
  | [] => none
  | c :: rest =>
    if c == '0' then afterZeros? c rest
    else if c == '-' || isLeadingDigit c then some (c :: rest)
    else none

/-- A number without a fraction of zeros. -/
def dropZeroFraction (text : List Char) : List Char :=
  match text.dropWhile (· != '.') with
  | _ :: zeros =>
    if !zeros.isEmpty && zeros.all (· == '0') then text.takeWhile (· != '.') else text
  | [] => text

/-- A number without single underscores inside it. -/
def dropUnderscores? (text : List Char) : Option (List Char) :=
  let groups := text.splitOn '_'
  if groups.any (·.isEmpty) then none else some groups.flatten

/-- A number without zeros in front, a fraction of zeros and single underscores. -/
def bare? (text : List Char) : Option (List Char) :=
  (dropZeros? text).bind fun text => dropUnderscores? (dropZeroFraction text)

/-- A number without what may surround its plain form. A plus sign does not go with a minus. -/
def cleaned? (text : List Char) : Option (List Char) :=
  match trimRightOf isSpace (trimLeftOf isSpace text) with
  | '+' :: '-' :: _ => none
  | '+' :: rest => bare? rest
  | '-' :: rest => (bare? rest).map ('-' :: ·)
  | text => bare? text

/-- The integer that a text writes, in its plain form or loosely. -/
def looseInteger? (text : List Char) : Option Int :=
  plainInteger? text <|> (cleaned? text).bind plainInteger?

/-- A minus sign stands before the zeros or behind them, and not between. -/
example :
    looseInteger? ['-', '0', '7'] = some (-7) ∧ looseInteger? ['0', '_', '-', '7'] = some (-7) ∧
      looseInteger? ['0', '-', '0', '7'] = none := by
  decide +kernel

end GoIndex.Text
