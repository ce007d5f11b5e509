import Stricture.Number.Shortest

/-!
# Amounts

What a limit amounts to: an exact number, or more or less than every number. Counts and doubles are
compared as amounts, so nothing is rounded.
-/

namespace Stricture

/-- An exact number, or one of the two ends of the line. -/
inductive Amount where
  | belowAll
  | exact (value : Rat)
  | aboveAll
  deriving DecidableEq

namespace Amount

/-- The strict order of amounts. -/
def Before : Amount → Amount → Prop
  | _, belowAll => False
  | belowAll, _ => True
  | aboveAll, _ => False
  | exact _, aboveAll => True
  | exact x, exact y => x < y

instance : LT Amount := ⟨Before⟩

instance : LE Amount := ⟨fun a b => ¬ b < a⟩

instance (a b : Amount) : Decidable (a < b) :=
  match a, b with
  | belowAll, belowAll | exact _, belowAll | aboveAll, belowAll => .isFalse id
  | belowAll, exact _ | belowAll, aboveAll => .isTrue trivial
  | aboveAll, exact _ | aboveAll, aboveAll => .isFalse id
  | exact _, aboveAll => .isTrue trivial
  | exact x, exact y => inferInstanceAs (Decidable (x < y))

instance (a b : Amount) : Decidable (a ≤ b) :=
  inferInstanceAs (Decidable (¬ b < a))

/-- A whole number. -/
def ofInt (n : Int) : Amount :=
  exact (mkRat n 1)

/-- A count. -/
def ofNat (n : Nat) : Amount :=
  ofInt n

/-- Half of a count. -/
def half (n : Nat) : Amount :=
  exact (mkRat n 2)

end Amount

/-- What a double amounts to, if it is a number. -/
def Double.amount? : Double → Option Amount
  | finite negative m e =>
    let (num, den) := quotient m e
    some (.exact (mkRat (if negative then -(num : Int) else num) den))
  | infinite negative => some (if negative then .belowAll else .aboveAll)
  | undefined => none

end Stricture
