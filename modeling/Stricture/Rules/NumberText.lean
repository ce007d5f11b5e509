import Stricture.Finding
import Stricture.Text.Blank
import Stricture.Text.Digit
import Stricture.Token.Basic

/-!
# Rules for how numbers are written
-/

namespace Stricture.Rules

/-- A digit or a point. -/
def isNumeral (c : Char) : Bool :=
  Text.isLatinDigit c || c == '.'

/-- What follows the digits and points at the start, if there are any. -/
def afterNumerals? (cs : List Char) : Option (List Char) :=
  if cs.head?.any isNumeral then some (cs.dropWhile isNumeral) else none

/-- The exponent of a number, or the mark of its base, is in upper case. -/
def hasUpperMark (cs : List Char) : Bool :=
  (afterNumerals? cs).any fun rest => rest.head?.any fun c => ['B', 'O', 'X', 'E'].contains c

/-- The text without the given character at its start. -/
def withoutHead (c : Char) (cs : List Char) : List Char :=
  if cs.head? = some c then cs.drop 1 else cs

/-- What follows the mark of a base, or the mark and the signs of an exponent. -/
def afterMark? : List Char → Option (List Char)
  | [] => none
  | c :: rest =>
    if ['b', 'o', 'x', 'B', 'O', 'X'].contains c then some rest
    else if c = 'e' ∨ c = 'E' then some (withoutHead '-' (withoutHead '+' rest))
    else none

/-- A zero with something after it. -/
def startsWithZero : List Char → Bool
  | '0' :: c :: _ => c != '\n'
  | _ => false

/-- The digits after the mark of a base, or of an exponent, begin with a zero. -/
def hasLeadingZero (cs : List Char) : Bool :=
  ((afterNumerals? cs).bind afterMark?).any startsWithZero

/-- The digits after the point end with a zero, and there are others before it. -/
def hasTrailingZero (cs : List Char) : Bool :=
  match cs.dropWhile Text.isLatinDigit with
  | '.' :: rest =>
    let digits := Text.beforeLastBreak rest
    digits.all Text.isLatinDigit && 2 ≤ digits.length && digits.getLast? == some '0'
  | _ => false

/-- The exponent has a plus. -/
def hasPositiveExponent (cs : List Char) : Bool :=
  match afterNumerals? cs with
  | some (c :: '+' :: _) => c == 'e' || c == 'E'
  | _ => false

/-- A hexadecimal number with small letters as digits. -/
def hasSmallHexDigit (cs : List Char) : Bool :=
  match cs with
  | '0' :: 'x' :: _ | '0' :: 'X' :: _ => cs.any fun c => 'a' ≤ c && c ≤ 'f'
  | _ => false

/-- The findings for one number. -/
def numberFindings (t : Token) : List Finding :=
  let cs := t.text.toList
  reportIf (cs.contains 'J') (Violation.badComplexNumberSuffix.atToken t "J")
    ++ reportIf (cs.contains '_') (Violation.underscoredNumber.atToken t t.text)
    ++ reportIf (cs.head? == some '.' || cs.getLast? == some '.')
      (Violation.partialFloat.atToken t t.text)
    ++ reportIf (hasUpperMark cs) (Violation.badNumberSuffix.atToken t t.text)
    ++ reportIf (hasTrailingZero cs || hasLeadingZero cs)
      (Violation.numberWithMeaninglessZero.atToken t t.text)
    ++ reportIf (hasPositiveExponent cs) (Violation.positiveExponent.atToken t t.text)
    ++ reportIf (hasSmallHexDigit cs) (Violation.wrongHexNumberCase.atToken t t.text)

/-- All numbers. -/
def numbers (tokens : List Token) : Report :=
  .ofFindings ((tokens.filter fun t => t.exactKind == .number).flatMap numberFindings)

end Stricture.Rules
