import Stricture.Comparison.Bounds
import Stricture.Evaluation
import Stricture.Subject
import Stricture.Tree.Signature
import Stricture.Tree.Target
import Stricture.Tree.Unwrap

/-!
# Rules for comparisons

Comparisons whose result is known, tests for membership, comparisons of lengths, the operators of a
chain, and the order of operands.
-/

namespace Stricture.Rules

/-! ### Operands that need no comparison -/

/-- Two literals stand side by side. The operands are looked at from the left, up to the first such
pair. -/
def literalPair : List Node → Except EvaluationError Bool
  | [] => .ok false
  | first :: rest => do
    let known ← first.isLiteral
    go known rest
where
  /-- The rest of the operands, after one that is a literal or not. -/
  go : Bool → List Node → Except EvaluationError Bool
    | _, [] => .ok false
    | known, next :: rest => do
      let isLiteral ← next.isLiteral
      if known && isLiteral then return true else go isLiteral rest

/-- The same variable stands side by side with itself. -/
def hasSamePair : List Node → Bool
  | first :: next :: rest => first.sameVariable next || hasSamePair (next :: rest)
  | _ => false

/-- What should not be searched for a member. -/
def isWrongContainer (n : Node) : Bool :=
  n.isAny [.list, .listComp, .dict, .dictComp, .tuple, .generator]

/-- Tests for membership: only one in a chain, and in something fit for it. -/
def membershipTests (n : Node) (ops : List CompareOp) (rights : List Node) : List Finding :=
  reportIf (1 < ops.countP CompareOp.isMembership) (Violation.multipleInCompare.atNode n)
    ++ ((ops.zip rights).filter fun (op, right) => op.isMembership && isWrongContainer right).map
      fun (_, right) => Violation.wrongInCompareType.atNode right

/-! ### Lengths -/

/-- A length may be compared with the operand, by the operator. Comparing it with zero, or in some
ways with one, only asks whether there is anything at all. -/
def isUsefulLength (op : CompareOp) (operand : Node) : Except EvaluationError Bool :=
  if operand.isNumber || operand.kind == .unary then do
    let value ← operand.literalValue
    if value.sameNumber (.int 0) then return false
    else if value.sameNumber (.int 1) then return !(op == .gtE || op == .lt)
    else return true
  else .ok true

/-- What belongs to the length at a place of a chain with `count` operands after the first: the item
that follows it, counted from the end of the items, or the first one if the length stands last. -/
def lengthPartner? {α : Type} (items : List α) (count place : Nat) : Option α :=
  if place < count then items.reverse[count - 1 - place]? else items.head?

/-- The length at a place of the chain is compared in a useful way. There has to be something that
it is compared with. -/
def isUsefulLengthAt (ops : List CompareOp) (rights : List Node) (place : Nat) :
    Except Fault Bool :=
  match lengthPartner? ops rights.length place, lengthPartner? rights rights.length place with
  | some op, some right => (isUsefulLength op right).mapError .evaluation
  | _, _ => .error .noOperator

/-- The lengths in a chain of comparisons, from the left, up to the first fault: what is called has
no text, or the operand beside a length has no constant value although it looks like one. -/
def lengthCompares (seen : Rendered) (s : Site) (ops : List CompareOp) (rights : List Node) :
    Nat → List Site → Report × Rendered
  | _, [] => (.empty, seen)
  | place, t :: rest =>
    match t.node.call? with
    | none => lengthCompares seen s ops rights (place + 1) rest
    | some c =>
      let isLength := seen.calledName t == "len"
      let seen' := seen.mark (t.under c.func)
      RenderingRule.requiring seen [t.under c.func] []
        (if isLength then
          match isUsefulLengthAt ops rights place with
          | .error fault => (.stopped fault, seen')
          | .ok isUseful =>
            let (report, seen'') := lengthCompares seen' s ops rights (place + 1) rest
            ((Report.ofFindings
              (reportIf (!isUseful) (Violation.uselessLenCompare.atNode s.node))).andThen report,
              seen'')
        else lengthCompares seen' s ops rights (place + 1) rest)

/-! ### Chains -/

/-- The operators of a chain are not all similar to the first one. -/
def isMixedChain (ops : List CompareOp) : Bool :=
  match ops with
  | first :: second :: rest => (second :: rest).any fun op => !first.similar.contains op
  | _ => false

/-- A chain of two orderings that goes down. -/
def isFalling (ops : List CompareOp) : Bool :=
  ops.length == 2 && ops.all fun op => op == .gt || op == .gtE

/-- The operators of a chain. There has to be one. -/
def chainFindings (n : Node) (ops : List CompareOp) : Report :=
  if ops.isEmpty then .stopped .noOperator
  else
    .ofFindings (reportIf (isMixedChain ops) (Violation.heterogenousCompare.atNode n)
      ++ reportIf (isFalling ops) (Violation.reversedComplexCompare.atNode n))

/-- What may be wrong with a comparison before lengths are looked at. -/
def operandFindings (n : Node) (ops : List CompareOp) (operands rights : List Node) : Report :=
  match literalPair operands with
  | .error e => .stopped (.evaluation e)
  | .ok isConstant =>
    .ofFindings (reportIf isConstant (Violation.constantCompare.atNode n)
      ++ reportIf (hasSamePair operands) (Violation.uselessCompare.atNode n)
      ++ membershipTests n ops rights)

/-- Comparisons that make sense. -/
def comparisons : RenderingRule := fun seen s =>
  let n := s.node
  match n.shape with
  | .compare left ops rights =>
    let first := operandFindings n ops (left :: rights) rights
    match first.fault with
    | some _ => (first, seen)
    | none =>
      let (lengths, seen') := lengthCompares seen s ops rights 0 s.operands
      ((first.andThen lengths).andThen (chainFindings n ops), seen')
  | _ => (.empty, seen)

/-! ### The order of operands -/

/-- A value that can only be known when the program runs. -/
def isVariablePart (n : Node) : Bool :=
  n.isAny [.name, .call, .attr, .subscript, .awaited]

/-- Some operand of nested operations is variable. -/
def hasVariablePart : Node → Bool
  | .mk _ _ (.binary left _ right) => hasVariablePart left || hasVariablePart right
  | n => isVariablePart n

/-- What the first operand that is variable, or an operation, says about whether something variable
stands on the right. An operation speaks for everything after it. -/
def rightVerdict? : Node → Option Bool
  | .mk _ _ (.binary left _ right) =>
    some ((rightVerdict? left).getD ((rightVerdict? right).getD false))
  | n => if isVariablePart n then some true else none

/-- Something variable stands on the right. -/
def hasVariableRight (rights : List Node) : Bool :=
  (rights.findSome? rightVerdict?).getD false

/-- The variable side of a comparison comes first. If nothing on the left is variable, there has to
be an operator. -/
def compareOrder (s : Site) : Report :=
  match s.node.shape with
  | .compare left ops rights =>
    if hasVariablePart left then .empty
    else
      match ops with
      | [] => .stopped .noOperator
      | first :: _ =>
        .ofFindings (reportIf
          (!first.isMembership && rights.length ≤ 1 && hasVariableRight rights)
          (Violation.compareOrder.atNode s.node))
  | _ => .empty

/-- Negating a comparison. -/
def negatedComparisons (s : Site) : List Finding :=
  match s.node.shape with
  | .unary .not operand =>
    reportIf (operand.kind == .compare) (Violation.notOperatorWithCompare.atNode s.node)
  | _ => []

end Stricture.Rules
