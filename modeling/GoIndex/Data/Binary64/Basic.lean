import GoIndex.Text.Integer

/-!
# Numbers of sixty-four bits

A number with a point is held in binary: a significand below `2 ^ 53` times a power of two, or an
infinity, or no number at all. Every operation is the exact one followed by one rounding to the
nearest number, where a half goes to the even significand:

* `ofFraction` rounds a quotient of natural numbers;
* `ofDecimal` rounds digits times a power of ten;
* `add` and `mul` round a sum and a product.

What is rounded has one form only: the significand has fifty-three bits, or the exponent is the
least one. Equal finite numbers other than zeros are therefore equal as data.
-/

namespace GoIndex.Data

open Text

/-- A number of sixty-four bits. A finite one is its significand times two to its exponent. -/
inductive Binary64 where
  | finite (negative : Bool) (significand : Nat) (exponent : Int)
  | infinite (negative : Bool)
  | undefined
  deriving DecidableEq, Repr

/-- A quotient rounded to a natural number, a half to the even one. -/
def roundDiv (n d : Nat) : Nat :=
  let rest := n % d
  if d < 2 * rest || (2 * rest == d && n / d % 2 == 1) then n / d + 1 else n / d

namespace Binary64

/-- The exponent below which there is none. -/
def leastExponent : Int := -1074

/-- The exponent above which there is none. -/
def greatestExponent : Int := 971

/-- The least significand of fifty-three bits. -/
def leastFull : Nat := 4503599627370496

/-- A zero. -/
def zero (negative : Bool) : Binary64 :=
  .finite negative 0 leastExponent

/-- The number with a rounded significand. One that has grown to fifty-four bits is halved, and one
whose exponent is too large is infinite. -/
def pack (negative : Bool) (significand : Nat) (exponent : Int) : Binary64 :=
  let full := significand == 2 * leastFull
  let significand := if full then leastFull else significand
  let exponent := if full then exponent + 1 else exponent
  if greatestExponent < exponent then .infinite negative
  else .finite negative significand exponent

/-- The fraction `n / d` divided by two to an exponent. -/
def scaleDown (n d : Nat) (exponent : Int) : Nat × Nat :=
  if exponent < 0 then (n <<< exponent.natAbs, d) else (n, d <<< exponent.natAbs)

/-- The exponent that the significand of `n / d` has when it is given fifty-three bits. -/
def fullExponent (n d : Nat) : Int :=
  let guess : Int := (n.log2 : Int) - (d.log2 : Int)
  let (a, b) := scaleDown n d guess
  (if a < b then guess - 1 else guess) - 52

/-- The number nearest to a fraction. -/
def ofFraction (negative : Bool) (n d : Nat) : Binary64 :=
  if n = 0 then zero negative
  else
    let full := fullExponent n d
    let exponent := if full < leastExponent then leastExponent else full
    let (a, b) := scaleDown n d exponent
    pack negative (roundDiv a b) exponent

/-- The number nearest to digits times a power of ten. What lies far outside the range is not
computed. -/
def ofDecimal (negative : Bool) (digits : Nat) (exponent : Int) : Binary64 :=
  let size : Int := ((Nat.toDigits 10 digits).length : Int) + exponent
  if digits = 0 || size < -330 then zero negative
  else if 310 < size then .infinite negative
  else if exponent < 0 then ofFraction negative digits (Nat.pow 10 exponent.natAbs)
  else ofFraction negative (digits * Nat.pow 10 exponent.natAbs) 1

/-- The number nearest to a natural number. -/
def ofNat (n : Nat) : Binary64 :=
  ofFraction false n 1

/-- The size of a finite number as a fraction. -/
def fraction (significand : Nat) (exponent : Int) : Nat × Nat :=
  scaleDown significand 1 (-exponent)

/-- The sum of two numbers. -/
def add : Binary64 → Binary64 → Binary64
  | .undefined, _ => .undefined
  | _, .undefined => .undefined
  | .infinite a, .infinite b => if a = b then .infinite a else .undefined
  | .infinite a, .finite _ _ _ => .infinite a
  | .finite _ _ _, .infinite b => .infinite b
  | .finite a m p, .finite b n q =>
    let (x, c) := fraction m p
    let (y, d) := fraction n q
    let sum := signed a (x * d) + signed b (y * c)
    if sum = 0 then zero (a && b) else ofFraction (decide (sum < 0)) sum.natAbs (c * d)

/-- The product of two numbers. -/
def mul : Binary64 → Binary64 → Binary64
  | .undefined, _ => .undefined
  | _, .undefined => .undefined
  | .infinite a, .infinite b => .infinite (a != b)
  | .infinite a, .finite b n _ => if n = 0 then .undefined else .infinite (a != b)
  | .finite a m _, .infinite b => if m = 0 then .undefined else .infinite (a != b)
  | .finite a m p, .finite b n q =>
    let (x, c) := fraction m p
    let (y, d) := fraction n q
    ofFraction (a != b) (x * y) (c * d)

/-- A number with its sign turned around. -/
def negate : Binary64 → Binary64
  | .finite negative significand exponent => .finite (!negative) significand exponent
  | .infinite negative => .infinite (!negative)
  | .undefined => .undefined

/-- The integer that a number without a fraction is. -/
def whole? : Binary64 → Option Int
  | .finite negative significand exponent =>
    let (n, d) := fraction significand exponent
    if n % d = 0 then some (signed negative (n / d)) else none
  | _ => none

end Binary64

/-- Halfway between two numbers the even significand is taken. -/
example :
    Binary64.ofDecimal false 9007199254740993 0 = Binary64.ofDecimal false 9007199254740992 0 := by
  decide +kernel

/-- Above the largest number there is only the infinite one. -/
example : Binary64.ofDecimal true 18 307 = .infinite true := by
  decide +kernel

end GoIndex.Data
