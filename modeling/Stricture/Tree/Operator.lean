/-!
# Operators and usages

The small parts of syntax. They hang on nodes and have nothing below them.
-/

namespace Stricture

/-- What a name, an attribute or a container is used for where it stands. -/
inductive Usage where
  | load
  | store
  | del
  deriving DecidableEq

/-- Plain statements and their asynchronous twins. -/
inductive Mode where
  | plain
  | async
  deriving DecidableEq

/-- The operators between two numbers, or two values that act like numbers. -/
inductive BinaryOp where
  | add | sub | mult | div | floorDiv | mod | pow | matMult
  | bitOr | bitXor | bitAnd | leftShift | rightShift
  deriving DecidableEq

/-- The operators that join conditions. -/
inductive BooleanOp where
  | and | or
  deriving DecidableEq

/-- The operators in front of one value. -/
inductive UnaryOp where
  | plus | minus | not | invert
  deriving DecidableEq

/-- The operators that compare. -/
inductive CompareOp where
  | eq | notEq | lt | ltE | gt | gtE | is | isNot | isIn | notIn
  deriving DecidableEq

namespace CompareOp

/-- Membership tests: `in` and `not in`. -/
def isMembership : CompareOp → Bool
  | isIn | notIn => true
  | _ => false

/-- The operators that may stand beside the given one in a chain: an ordering may be strict or not,
any other operator is only similar to itself. -/
def similar : CompareOp → List CompareOp
  | gt | gtE => [gt, gtE]
  | lt | ltE => [lt, ltE]
  | op => [op]

end CompareOp

/-- A small part that hangs on a node without being a node of its own. -/
inductive Attachment where
  | usage (usage : Usage)
  | boolean (op : BooleanOp)
  | binary (op : BinaryOp)
  | unary (op : UnaryOp)
  | compare (op : CompareOp)
  deriving DecidableEq

end Stricture
