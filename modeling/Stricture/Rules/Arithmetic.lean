import Stricture.Finding
import Stricture.Tree.Unwrap

/-!
# Rules for operators between numbers and texts

Operators that change nothing, divisions by zero, and operators for which there is a better one.
-/

namespace Stricture.Rules

/-- An operation: its operator and operands. An augmented assignment only has the operand that it
brings along. -/
structure Operation where
  op : BinaryOp
  left : Option Node
  right : Node

/-- The operation at a node. -/
def operation? (n : Node) : Option Operation :=
  match n.shape with
  | .binary left op right => some ⟨op, some left, right⟩
  | .augAssign _ op value => some ⟨op, none, value⟩
  | _ => none

/-! ### Useless operators -/

/-- How many of each prefix operator may stand in front of a number. -/
def signLimits : List (UnaryOp × Nat) :=
  [(.plus, 0), (.invert, 1), (.not, 1), (.minus, 1)]

/-- Too many prefix operators of one kind. -/
def repeatedSigns (s : Site) (literal : Literal) : List Finding :=
  signLimits.flatMap fun (op, limit) =>
    reportIf (limit < s.countSign op) (Violation.uselessOperators.atNode s.node literal.display)

/-- The number behind the signs of an operand equals the given one. -/
def isNumberBehind (n : Node) (value : Int) : Bool :=
  n.unwrapUnary.literal?.any fun literal => literal.isNumber && literal.isWhole value

/-- Dividing by zero. -/
def zeroDivisions (o : Operation) : List Finding :=
  reportIf (o.op == .div && isNumberBehind o.right 0)
    (Violation.zeroDivision.atNode o.right.unwrapUnary)

/-- An operand that the operator leaves without a meaning: a zero, or a one without a minus. -/
def isMeaningless (op : BinaryOp) (operand : Node) : Bool :=
  (isNumberBehind operand 0 && [.mult, .add, .sub, .pow].contains op)
    || (isNumberBehind operand 1 && [.div, .mult, .pow].contains op
      && !operand.contains [.attachment (.unary .minus)])

/-- Operands without a meaning. -/
def meaninglessOperands (o : Operation) : List Finding :=
  (o.left.toList ++ [o.right]).flatMap fun operand =>
    reportIf (isMeaningless o.op operand)
      (Violation.meaninglessNumberOperation.atNode operand.unwrapUnary)

/-- Operators that change nothing. -/
def uselessOperators (s : Site) : List Finding :=
  match s.node.literal? with
  | some literal => if literal.isNumber then repeatedSigns s literal else []
  | none =>
    match operation? s.node with
    | some o => zeroDivisions o ++ meaninglessOperands o
    | none => []

/-! ### Wrong operators -/

/-- Adding or subtracting a negated value. -/
def negatedOperands (o : Operation) : List Finding :=
  reportIf ([.add, .sub].contains o.op && o.right.unaryOp? == some .minus)
    (Violation.operationSignNegation.atNode o.right)

/-- Multiplying a list. -/
def multipliedLists (o : Operation) : List Finding :=
  o.left.toList.flatMap fun left =>
    reportIf (o.op == .mult && left.isAny [.list, .listComp]) (Violation.listMultiply.atNode left)

/-- A text of any kind. -/
def isAnyText (n : Node) : Bool :=
  n.isText || n.isBytes || n.kind == .joined

/-- Both operands begin on the same line. -/
def isOnOneLine (o : Operation) : Bool :=
  match o.left with
  | none => true
  | some left =>
    match left.line?, o.right.line? with
    | _, none => true
    | l, some r => l.getD 0 == r

/-- Adding texts on one line: the first operand that is a text. -/
def addedTexts (o : Operation) : List Finding :=
  if o.op = .add ∧ isOnOneLine o then
    (((o.left.toList ++ [o.right]).find? isAnyText).toList).map fun n =>
      Violation.explicitStringConcat.atNode n
  else []

/-- Operators that should be replaced. -/
def wrongOperators (s : Site) : List Finding :=
  match operation? s.node with
  | some o => negatedOperands o ++ multipliedLists o ++ addedTexts o
  | none => []

end Stricture.Rules
