import GoIndex.Text.Blank

/-!
# Integers in text

Reading an integer: white space around it, one sign, and decimal digits with single underscores
between them. Which characters are digits is a parameter: those of every script for a command line,
those of ASCII for settings.

A numeral of a base has no underscores. The mark of its base may stand before its digits.
-/

namespace GoIndex.Text

/-- The zeros of the decimal digits of Unicode; the digits one to nine follow each of them. -/
def decimalZeros : Array Nat := #[
    0x30, 0x660, 0x6f0, 0x7c0, 0x966, 0x9e6, 0xa66, 0xae6, 0xb66, 0xbe6, 0xc66, 0xce6, 0xd66,
    0xde6, 0xe50, 0xed0, 0xf20, 0x1040, 0x1090, 0x17e0, 0x1810, 0x1946, 0x19d0, 0x1a80, 0x1a90,
    0x1b50, 0x1bb0, 0x1c40, 0x1c50, 0xa620, 0xa8d0, 0xa900, 0xa9d0, 0xa9f0, 0xaa50, 0xabf0,
    0xff10, 0x104a0, 0x10d30, 0x11066, 0x110f0, 0x11136, 0x111d0, 0x112f0, 0x11450, 0x114d0,
    0x11650, 0x116c0, 0x11730, 0x118e0, 0x11950, 0x11c50, 0x11d50, 0x11da0, 0x16a60, 0x16ac0,
    0x16b50, 0x1d7ce, 0x1d7d8, 0x1d7e2, 0x1d7ec, 0x1d7f6, 0x1e140, 0x1e2f0, 0x1e950, 0x1fbf0]

/-- The value of a decimal digit of any script. -/
def decimalDigit? (c : Char) : Option Nat :=
  (decimalZeros.find? fun start => start ≤ c.toNat && c.toNat < start + 10).map (c.toNat - ·)

/-- The value of a decimal digit of ASCII. -/
def asciiDigit? (c : Char) : Option Nat :=
  if c.isDigit then some (c.toNat - 48) else none

/-- The number that digits of a base write, most significant first. -/
def ofDigits (base : Nat) (digits : List Nat) : Nat :=
  digits.foldl (fun value digit => base * value + digit) 0

/-- The digits of a number that is written with single underscores between digits. -/
def digitsOf? (digit? : Char → Option Nat) (text : List Char) : Option (List Nat) :=
  let groups := text.splitOn '_'
  if groups.any (·.isEmpty) then none else groups.flatten.mapM digit?

/-- A sign, positive when there is none, and the text behind it. -/
def splitSign : List Char → Bool × List Char
  | '-' :: rest => (true, rest)
  | '+' :: rest => (false, rest)
  | text => (false, text)

/-- The integer with a sign and a size. -/
def signed (negative : Bool) (size : Nat) : Int :=
  if negative then -(size : Int) else size

/-- No integer is read from more digits than this, unless another limit is set. -/
def maxDigits : Nat := 4300

/-- Whether a limit, if there is one, allows so many digits. -/
def allowsDigits (limit : Option Nat) (count : Nat) : Bool :=
  limit.all (count ≤ ·)

/-- The integer that a command line argument writes in as many digits as are allowed. -/
def readInteger? (limit : Option Nat) (text : String) : Option Int :=
  let (negative, rest) := splitSign (trimRightOf isSpace (trimLeftOf isSpace text.toList))
  match digitsOf? decimalDigit? rest with
  | some digits =>
    if allowsDigits limit digits.length then some (signed negative (ofDigits 10 digits)) else none
  | none => none

/-! ### Numerals of a base -/

/-- Why a text is no numeral. -/
inductive NumeralFault where
  | malformed
  | tooManyDigits (count : Nat)
  deriving DecidableEq, Repr

/-- The value of a digit: a decimal digit of any script, or a letter. -/
def digitValue? (c : Char) : Option Nat :=
  if 'a' ≤ c && c ≤ 'z' then some (c.toNat - 87)
  else if 'A' ≤ c && c ≤ 'Z' then some (c.toNat - 55)
  else decimalDigit? c

/-- The letter that may stand behind a zero before the digits of a base. -/
def baseLetter? : Nat → Option Char
  | 2 => some 'b'
  | 8 => some 'o'
  | 16 => some 'x'
  | _ => none

/-- A numeral without the mark of its base. -/
def dropBaseMark (base : Nat) : List Char → List Char
  | '0' :: c :: rest => if baseLetter? base == some c.toLower then rest else '0' :: c :: rest
  | text => text

/-- The integer that a numeral of a base writes. Decimal digits are counted before anything behind
them is looked at. -/
def readNumeral (base : Nat) (text : List Char) : Except NumeralFault Int :=
  let (negative, size) := splitSign (trimLeftOf isSpace text)
  let value? (c : Char) : Option Nat := (digitValue? c).filter (· < base)
  let size := dropBaseMark base size
  let digits := (size.takeWhile fun c => (value? c).isSome).filterMap value?
  if base = 10 ∧ maxDigits < digits.length then .error (.tooManyDigits digits.length)
  else if digits.isEmpty || !(size.drop digits.length).all isSpace then .error .malformed
  else .ok (signed negative (ofDigits base digits))

end GoIndex.Text
