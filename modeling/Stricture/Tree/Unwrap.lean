import Stricture.Tree.Kind

/-!
# Looking through signs and stars

A sign or another prefix operator in front of an expression, or a star, often says nothing about
what the expression is. These functions look through them, downwards and upwards.
-/

namespace Stricture

/-- The expression behind all prefix operators. -/
def Node.unwrapUnary : Node → Node
  | .mk _ _ (.unary _ operand) => operand.unwrapUnary
  | n => n

/-- The expression behind a star. -/
def Node.unwrapStarred (n : Node) : Node :=
  match n.shape with
  | .starred value _ => value
  | _ => n

/-- The operator, if the node is a prefix operator with its operand. -/
def Node.unaryOp? (n : Node) : Option UnaryOp :=
  match n.shape with
  | .unary op _ => some op
  | _ => none

theorem Node.exists_unary {n : Node} (h : n.kind = .unary) :
    ∃ op operand, n.shape = .unary op operand := by
  rw [Node.kind] at h
  cases hshape : n.shape with
  | unary op operand => exact ⟨op, operand, rfl⟩
  | functionDef mode | forLoop mode | withBlock mode =>
    rw [hshape] at h
    cases mode <;> cases h
  | _ =>
    rw [hshape] at h
    cases h

namespace Site

/-- The prefix operators right in front of a site, the nearest first. -/
def signs (s : Site) : List UnaryOp :=
  (s.above.takeWhile fun n => n.unaryOp?.isSome).filterMap Node.unaryOp?

/-- The nearest ancestor that is not a prefix operator. -/
def realParent? (s : Site) : Option Node :=
  s.above.find? fun n => n.unaryOp?.isNone

/-- How often an operator stands among the prefix operators right in front of a site. -/
def countSign (s : Site) (op : UnaryOp) : Nat :=
  s.signs.count op

end Site

/-! ### Chains of access -/

/-- The parts of a chain of attributes, subscripts and calls, from the whole chain down to what it
starts from. -/
def Node.accessParts : Node → List Node
  | .mk id position (.attr value attr usage) =>
    .mk id position (.attr value attr usage) :: value.accessParts
  | .mk id position (.subscript value index usage) =>
    .mk id position (.subscript value index usage) :: value.accessParts
  | .mk id position (.call func args keywords) =>
    .mk id position (.call func args keywords) :: func.accessParts
  | n => [n]

end Stricture
