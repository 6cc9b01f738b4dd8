/-!
# Sets of characters given by ranges

A property of characters beyond ASCII is a table of inclusive code point ranges. Membership is the
plain statement "some range holds the code point"; nothing here depends on the order of the ranges.
-/

namespace GoIndex.Text

/-- Inclusive ranges of code points. -/
abbrev Ranges := Array (Nat × Nat)

/-- Whether some range holds the code point of `c`. -/
def Ranges.holds (ranges : Ranges) (c : Char) : Bool :=
  ranges.any fun range => range.1 ≤ c.toNat && c.toNat ≤ range.2

end GoIndex.Text
