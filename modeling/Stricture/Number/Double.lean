/-!
# Double-precision numbers

A double is an exact value: a sign and `mantissa * 2 ^ exponent`, or an infinity, or it is no number
at all. The mantissa of a number other than zero is odd, and zero has exponent zero, so two numbers
of one sign are equal as values exactly when they are equal as terms.
-/

namespace Stricture

/-- A double-precision number in lowest terms. -/
inductive Double where
  | finite (negative : Bool) (mantissa : Nat) (exponent : Int)
  | infinite (negative : Bool)
  | undefined
  deriving DecidableEq

namespace Double

/-- Moves the factors of two from the mantissa to the exponent. The first argument bounds their
number. -/
def reduce : Nat → Nat → Int → Nat × Int
  | 0, m, e => (m, e)
  | fuel + 1, m, e => if m % 2 = 0 then reduce fuel (m / 2) (e + 1) else (m, e)

/-- `m * 2 ^ e` in lowest terms. -/
def ofScaled (negative : Bool) (m : Nat) (e : Int) : Double :=
  if m = 0 then finite negative 0 0
  else
    let (m, e) := reduce (Nat.log2 m) m e
    finite negative m e

/-- The quotient rounded to the nearest whole number, a half to the even neighbour. -/
def roundQuotient (num den : Nat) : Nat :=
  let q := num / den
  let twice := 2 * (num % den)
  if twice < den then q
  else if den < twice then q + 1
  else if q % 2 = 0 then q else q + 1

/-- `num / den < base ^ k`. -/
def belowPower (base num den : Nat) (k : Int) : Bool :=
  if 0 ≤ k then num < den * Nat.pow base k.toNat else num * Nat.pow base (-k).toNat < den

/-- The largest `k` with `2 ^ k ≤ num / den`. -/
def floorLog2 (num den : Nat) : Int :=
  let k : Int := (Nat.log2 num : Int) - (Nat.log2 den : Int)
  if belowPower 2 num den k then k - 1 else k

/-- The double nearest to the quotient, a half to the even neighbour. A double has 53 binary digits
and no unit smaller than `2 ^ -1074`; what rounds to `2 ^ 1024` or more is infinite. -/
def nearest (negative : Bool) (num den : Nat) : Double :=
  if num = 0 then finite negative 0 0
  else
    let e := max (floorLog2 num den - 52) (-1074)
    let m :=
      if 0 ≤ e then roundQuotient num (den * Nat.pow 2 e.toNat)
      else roundQuotient (num * Nat.pow 2 (-e).toNat) den
    if m ≠ 0 ∧ 1024 ≤ (Nat.log2 m : Int) + e then infinite negative else ofScaled negative m e

/-- The double nearest to `digits * 10 ^ exponent`. -/
def ofDecimal (negative : Bool) (digits : Nat) (exponent : Int) : Double :=
  if 0 ≤ exponent then nearest negative (digits * Nat.pow 10 exponent.toNat) 1
  else nearest negative digits (Nat.pow 10 (-exponent).toNat)

/-- The double nearest to a whole number; there is none for a number past the finite range. -/
def ofInt? (n : Int) : Option Double :=
  match nearest (decide (n < 0)) n.natAbs 1 with
  | finite negative m e => some (finite negative m e)
  | _ => none

/-- The opposite number. Zero has an opposite too. -/
def neg : Double → Double
  | finite negative m e => finite (!negative) m e
  | infinite negative => infinite (!negative)
  | undefined => undefined

/-- Zero of either sign. -/
def isZero : Double → Bool
  | finite _ m _ => m == 0
  | _ => false

/-- The sum with a positive zero: a negative zero becomes a positive one. -/
def plusZero (x : Double) : Double :=
  if x.isZero then finite false 0 0 else x

/-- The same value: the two zeros are one, and what is no number is not even equal to itself. -/
def same (x y : Double) : Bool :=
  (x.isZero && y.isZero) || (x == y && x != undefined)

/-- The same value as a whole number. -/
def sameInt (x : Double) (n : Int) : Bool :=
  match x with
  | finite negative m e =>
    if m = 0 then n == 0
    else decide (0 ≤ e) && n == (if negative then -1 else 1) * (m * Nat.pow 2 e.toNat : Nat)
  | _ => false

end Double

end Stricture
