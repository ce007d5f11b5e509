import Stricture.Number.Double

/-!
# Literals

The constants that can be written in a program.
-/

namespace Stricture

/-- A constant. The value of `imaginary` is the factor of the imaginary unit. -/
inductive Literal where
  | none
  | ellipsis
  | bool (value : Bool)
  | int (value : Int)
  | float (value : Double)
  | imaginary (value : Double)
  | text (value : String)
  | bytes (value : List UInt8)

namespace Literal

/-- A number: the truth values are not numbers. -/
def isNumber : Literal → Bool
  | int _ | float _ | imaginary _ => true
  | _ => false

/-- A text. -/
def isText : Literal → Bool
  | text _ => true
  | _ => false

/-- A byte string. -/
def isBytes : Literal → Bool
  | bytes _ => true
  | _ => false

/-- One of the three named constants: true, false and none. -/
def isNamed : Literal → Bool
  | none | bool _ => true
  | _ => false

/-- The ellipsis. -/
def isEllipsis : Literal → Bool
  | ellipsis => true
  | _ => false

/-- A number equal to the given whole number, whatever its kind. -/
def isWhole (literal : Literal) (n : Int) : Bool :=
  match literal with
  | int m => m == n
  | float x => x.sameInt n
  | imaginary x => x.isZero && n == 0
  | _ => false

end Literal

end Stricture
