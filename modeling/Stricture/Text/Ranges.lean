/-!
# Tables of characters

A class of characters is given by the ranges of code points it covers. The tables in the modules
beside this one follow version 14 of the Unicode character database.
-/

namespace Stricture.Text

/-- The character stands in one of the ranges, ends included. -/
def inRanges (table : List (Nat × Nat)) (c : Char) : Bool :=
  table.any fun range => range.1 ≤ c.toNat && c.toNat ≤ range.2

/-- The character stands in one of the ranges and is an even number of places after its start. -/
def inAlternating (table : List (Nat × Nat)) (c : Char) : Bool :=
  table.any fun range =>
    range.1 ≤ c.toNat && c.toNat ≤ range.2 && (c.toNat - range.1) % 2 == 0

end Stricture.Text
