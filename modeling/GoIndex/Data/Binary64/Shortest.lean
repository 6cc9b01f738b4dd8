import GoIndex.Data.Binary64.Basic

/-!
# Numbers as text

A number is written with the fewest digits that are read back as the same number. The digits are
found by trying coarse grids first: on the grid of a power of ten, a number has a neighbour below
and one above, and the first grid with a neighbour that reads back gives the digits. Of two such
neighbours the closer one is taken, and of two that are equally close the even one.

Digits are written out around the point when it stands within sixteen places, and with an exponent
of at least two digits elsewhere.
-/

namespace GoIndex.Data.Binary64

/-! ### Digits -/

/-- The neighbour on the grid of a power of ten that reads back as the finite number with a
significand and an exponent. The reals that do so lie around the number up to half of the gap to the
next number, which is narrower below a power of two; the ends count for an even significand. -/
def onGrid? (significand : Nat) (exponent power : Int) : Option Nat :=
  let up := Nat.pow 2 (exponent - 2).toNat * Nat.pow 10 (-power).toNat
  let unit := Nat.pow 2 (2 - exponent).toNat * Nat.pow 10 power.toNat
  let narrow := significand == leastFull && leastExponent < exponent
  let value := 4 * significand * up
  let low := (4 * significand - (if narrow then 1 else 2)) * up
  let high := (4 * significand + 2) * up
  let readsBack (n : Nat) : Bool :=
    if significand % 2 = 0 then low ≤ n * unit && n * unit ≤ high
    else low < n * unit && n * unit < high
  let below := value / unit
  match readsBack below, readsBack (below + 1) with
  | true, true => some (roundDiv value unit)
  | true, false => some below
  | false, true => some (below + 1)
  | false, false => none

/-- The number of digits before the point of a fraction that is not zero; it is negative when zeros
follow the point. -/
def pointPlace (n d : Nat) : Int :=
  ((Nat.toDigits 10 (n * Nat.pow 10 400 / d)).length : Int) - 400

/-- The fewest digits that read back as a finite number, and the place of the point among them. No
number needs more than seventeen. -/
def shortest (significand : Nat) (exponent : Int) : List Char × Int :=
  if significand = 0 then (['0'], 1)
  else
    let (n, d) := fraction significand exponent
    let place := pointPlace n d
    let found := (List.range 17).findSome? fun count =>
      let power := place - (count + 1 : Nat)
      (onGrid? significand exponent power).map fun digits => (digits, power)
    let (digits, power) := found.getD (n * Nat.pow 10 400 / d, -400)
    let all := Nat.toDigits 10 digits
    ((all.reverse.dropWhile (· == '0')).reverse, (all.length : Int) + power)

/-! ### Layout -/

/-- Digits with a point behind so many of them. -/
def positional (digits : List Char) (place : Int) : List Char :=
  let before := digits.take place.toNat ++ List.replicate (place.toNat - digits.length) '0'
  let behind := List.replicate (-place).toNat '0' ++ digits.drop place.toNat
  (if before.isEmpty then ['0'] else before) ++ '.' :: (if behind.isEmpty then ['0'] else behind)

/-- Digits with a point behind the first and an exponent of ten. -/
def scientific (digits : List Char) (exponent : Int) : List Char :=
  let size := Nat.toDigits 10 exponent.natAbs
  digits.take 1 ++ (if digits.length ≤ 1 then [] else '.' :: digits.drop 1) ++
    'e' :: (if exponent < 0 then '-' else '+') :: List.replicate (2 - size.length) '0' ++ size

/-- The text of a number. -/
def render : Binary64 → String
  | .finite negative significand exponent =>
    let (digits, place) := shortest significand exponent
    let text :=
      if -4 < place && place ≤ 16 then positional digits place else scientific digits (place - 1)
    String.ofList (if negative then '-' :: text else text)
  | .infinite negative => if negative then "-Infinity" else "Infinity"
  | .undefined => "NaN"

/-- Both ends of the interval of an even significand read back. -/
example : (ofDecimal false 1 23).render = "1e+23" := by decide +kernel

/-- The exponent has two digits at least. -/
example : (ofDecimal true 1 (-5)).render = "-1e-05" := by decide +kernel

end GoIndex.Data.Binary64
