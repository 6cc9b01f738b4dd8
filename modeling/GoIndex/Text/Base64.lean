/-!
# Bytes written as sixty-four characters

Four characters stand for three bytes. A character outside the alphabet is passed over. At the end
one or two signs of equality fill the last four up, and nothing behind them is looked at; a text
that ends within four characters is refused.
-/

namespace GoIndex.Text

/-- The six bits that a character stands for. -/
def sextet? (c : Char) : Option Nat :=
  if 'A' ≤ c && c ≤ 'Z' then some (c.toNat - 65)
  else if 'a' ≤ c && c ≤ 'z' then some (c.toNat - 71)
  else if c.isDigit then some (c.toNat + 4)
  else if c == '+' then some 62
  else if c == '/' then some 63
  else none

/-- The bytes behind `place` characters of a group, of which `bits` are left over, and `fill` signs
that fill it up. -/
def bytesFrom? (place bits fill : Nat) : List Char → Option (List UInt8)
  | [] => if place = 0 then some [] else none
  | c :: rest =>
    if c == '=' then
      if place < 2 then bytesFrom? place bits fill rest
      else if 4 ≤ place + fill + 1 then some []
      else bytesFrom? place bits (fill + 1) rest
    else
      match sextet? c, place with
      | none, _ => bytesFrom? place bits fill rest
      | some n, 0 => bytesFrom? 1 n 0 rest
      | some n, 1 => (bytesFrom? 2 (n % 16) 0 rest).map ((4 * bits + n / 16).toUInt8 :: ·)
      | some n, 2 => (bytesFrom? 3 (n % 4) 0 rest).map ((16 * bits + n / 4).toUInt8 :: ·)
      | some n, _ => (bytesFrom? 0 0 0 rest).map ((64 * bits + n).toUInt8 :: ·)

/-- The bytes that a text writes. -/
def ofBase64? (text : List Char) : Option (List UInt8) :=
  bytesFrom? 0 0 0 text

/-- Line ends are passed over, and a last group has to be filled up. -/
example : ofBase64? ['a', 'G', '\n', 'k', '='] = some [0x68, 0x69] ∧
    ofBase64? ['a', 'G', 'k'] = none := by
  decide

end GoIndex.Text
