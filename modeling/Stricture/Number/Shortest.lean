import Stricture.Number.Double

/-!
# Shortest decimals

The text of a double has the fewest digits that read back as the same double, and of those the
nearest to it. It is positional while the point stands at most sixteen places after the first digit
or three zeros before it, and has an exponent otherwise.
-/

namespace Stricture.Double

/-- The exact value as a quotient. -/
def quotient (m : Nat) (e : Int) : Nat × Nat :=
  if 0 ≤ e then (m * Nat.pow 2 e.toNat, 1) else (m, Nat.pow 2 (-e).toNat)

/-- The number of decimal digits. -/
def digitCount (n : Nat) : Nat :=
  (Nat.toDigits 10 n).length

/-- The largest `k` with `10 ^ k ≤ num / den`. -/
def floorLog10 (num den : Nat) : Int :=
  let k : Int := (digitCount num : Int) - (digitCount den : Int)
  if belowPower 10 num den k then k - 1 else k

/-- `num / den` in units of `10 ^ k`, rounded down, with the part that was cut off as a quotient. -/
def inUnits (num den : Nat) (k : Int) : Nat × Nat × Nat :=
  if 0 ≤ k then
    let unit := den * Nat.pow 10 k.toNat
    (num / unit, num % unit, unit)
  else
    let scaled := num * Nat.pow 10 (-k).toNat
    (scaled / den, scaled % den, den)

/-- The neighbours of `num / den` on the grid of `10 ^ k`, the nearer first. -/
def neighbours (num den : Nat) (k : Int) : List Nat :=
  let (low, cut, unit) := inUnits num den k
  if unit < 2 * cut ∨ (unit = 2 * cut ∧ low % 2 = 1) then [low + 1, low] else [low, low + 1]

/-- Tries one digit, then two, and so on, `fuel` times; `count` digits were tried already. -/
def shortestFrom (x : Double) (num den : Nat) (top : Int) : Nat → Nat → Nat × Int
  | 0, count => ((inUnits num den (top - count)).1, top - count)
  | fuel + 1, count =>
    let k := top - count
    match (neighbours num den k).find? fun digits => ofDecimal false digits k == x with
    | some digits => (digits, k)
    | none => shortestFrom x num den top fuel (count + 1)

/-- Digits and exponent of the shortest decimal of `m * 2 ^ e`, which is not zero. -/
def shortest (m : Nat) (e : Int) : Nat × Int :=
  let (num, den) := quotient m e
  shortestFrom (finite false m e) num den (floorLog10 num den) 17 0

/-- Digits without zeros at their end, with the place of the point counted from the first digit. -/
def decimalPlaces (digits : Nat) (exponent : Int) : List Char × Int :=
  let cs := Nat.toDigits 10 digits
  ((cs.reverse.dropWhile (· == '0')).reverse, cs.length + exponent)

/-- An exponent has a sign and at least two digits. -/
def writeExponent (n : Int) : List Char :=
  let cs := Nat.toDigits 10 n.natAbs
  (if n < 0 then '-' else '+') :: (if cs.length < 2 then '0' :: cs else cs)

/-- Digits with the point at the given place. `whole` says whether a whole number gets `.0`. -/
def writeDigits (whole : Bool) (cs : List Char) (point : Int) : List Char :=
  if 16 < point ∨ point < -3 then
    let tail := cs.drop 1
    cs.take 1 ++ (if tail.isEmpty then [] else '.' :: tail) ++ 'e' :: writeExponent (point - 1)
  else if point ≤ 0 then
    '0' :: '.' :: List.replicate (-point).toNat '0' ++ cs
  else
    let n := point.toNat
    if cs.length ≤ n then
      cs ++ List.replicate (n - cs.length) '0' ++ (if whole then ['.', '0'] else [])
    else
      cs.take n ++ '.' :: cs.drop n

/-- The digits of a number without its sign. -/
def writeSize (whole : Bool) : Double → List Char
  | finite _ m e =>
    if m = 0 then '0' :: (if whole then ['.', '0'] else [])
    else
      let (digits, exponent) := shortest m e
      let (cs, point) := decimalPlaces digits exponent
      writeDigits whole cs point
  | infinite _ => ['i', 'n', 'f']
  | undefined => ['n', 'a', 'n']

/-- The number is below zero, or is the zero reached from below. -/
def isNegative : Double → Bool
  | finite negative _ _ => negative
  | infinite negative => negative
  | undefined => false

/-- The text of a double: a whole number ends in `.0`. -/
def written (x : Double) : String :=
  String.ofList ((if x.isNegative then ['-'] else []) ++ x.writeSize true)

/-! ### Reading -/

/-- The digits at the start of a text, as a number with their count, and the rest. -/
def readDigits (cs : List Char) : Nat × Nat × List Char :=
  let digits := cs.takeWhile Char.isDigit
  (digits.foldl (fun n c => 10 * n + (c.toNat - '0'.toNat)) 0, digits.length,
    cs.dropWhile Char.isDigit)

/-- The exponent at the end of a decimal. -/
def readExponent? : List Char → Option Int
  | [] => some 0
  | 'e' :: '-' :: cs =>
    match readDigits cs with
    | (n, _ + 1, []) => some (-(n : Int))
    | _ => none
  | 'e' :: '+' :: cs =>
    match readDigits cs with
    | (n, _ + 1, []) => some (n : Int)
    | _ => none
  | _ => none

/-- A decimal without a sign. -/
def readSize? (negative : Bool) (cs : List Char) : Option Double :=
  if cs = ['i', 'n', 'f'] then some (infinite negative)
  else if cs = ['n', 'a', 'n'] then some undefined
  else
    let (front, _, rest) := readDigits cs
    match rest with
    | '.' :: rest =>
      let (back, count, rest) := readDigits rest
      (readExponent? rest).map fun e =>
        ofDecimal negative (front * Nat.pow 10 count + back) (e - count)
    | rest => (readExponent? rest).map fun e => ofDecimal negative front e

/-- The double that a text denotes. -/
def ofText? (text : String) : Option Double :=
  match text.toList with
  | '-' :: cs => readSize? true cs
  | cs => readSize? false cs

end Stricture.Double
