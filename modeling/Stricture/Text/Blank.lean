import Stricture.Text.Ranges

/-!
# Blanks

Which characters count as white space, and cutting characters off the ends of a text.
-/

namespace Stricture.Text

/-- The ranges of blank characters: tabs and line ends, separators, and the spaces of print. -/
def blankRanges : List (Nat × Nat) := [
  (0x9, 0xD), (0x1C, 0x20), (0x85, 0x85), (0xA0, 0xA0), (0x1680, 0x1680), (0x2000, 0x200A),
  (0x2028, 0x2029), (0x202F, 0x202F), (0x205F, 0x205F), (0x3000, 0x3000)]

/-- A blank character. -/
def isBlank (c : Char) : Bool :=
  inRanges blankRanges c

/-- Drops from both ends the characters that pass the test. -/
def trimWhere (test : Char → Bool) (cs : List Char) : List Char :=
  ((cs.dropWhile test).reverse.dropWhile test).reverse

/-- The text without the blanks at its ends. -/
def strip (text : String) : String :=
  String.ofList (trimWhere isBlank text.toList)

/-- The text without the copies of `c` at its ends. -/
def stripChar (c : Char) (text : String) : String :=
  String.ofList (trimWhere (· == c) text.toList)

/-- A pattern that asks for the end of a text also takes the place before one last line break: the
text up to there. -/
def beforeLastBreak (cs : List Char) : List Char :=
  if cs.getLast? = some '\n' then cs.dropLast else cs

end Stricture.Text
