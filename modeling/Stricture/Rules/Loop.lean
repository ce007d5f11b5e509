import Stricture.Finding
import Stricture.Grouping
import Stricture.Tree.Block
import Stricture.Tree.Target
import Stricture.Tree.Unwrap

/-!
# Rules for loops and comprehensions

How many generators and conditions a comprehension has, what loops go over and bind, what they do
when they end without a break, and statements that have no place in their bodies.
-/

namespace Stricture.Rules

/-! ### Comprehensions -/

/-- The generators of a comprehension. -/
def generators (n : Node) : List Node :=
  match n.shape with
  | .listComp _ generators | .setComp _ generators | .dictComp _ _ generators
  | .generator _ generators => generators
  | _ => []

/-- A comprehension of any kind. -/
def isComprehension (n : Node) : Bool :=
  n.isAny [.listComp, .setComp, .dictComp, .generator]

/-- Conditions of one generator, and values yielded inside of a comprehension. -/
def comprehensionParts (s : Site) : List Finding :=
  match s.node.shape with
  | .comprehension _ _ conditions _ =>
    let place := (s.parent?.map Site.node).getD s.node
    reportIf (1 < conditions.length) (Violation.multipleIfsInComprehension.atNode place)
  | _ =>
    if isComprehension s.node then
      (s.node.walk.filter fun n => n.kind == .yielded).map fun _ =>
        Violation.yieldInComprehension.atNode s.node
    else []

/-- The comprehensions of a program in the order in which their first generators are visited. -/
def comprehensions (sites : List Site) : List Node :=
  let owners := (sites.filter fun s => s.node.kind == .comprehension).filterMap fun s =>
    s.parent?.map Site.node
  (grouped Node.id owners).filterMap fun group => group.2.head?

/-- Comprehensions, part by part, and then those with too many generators. -/
def comprehensionRules (sites : List Site) : List Finding :=
  sites.flatMap comprehensionParts
    ++ ((comprehensions sites).filter fun n => 2 < (generators n).length).map fun n =>
      Violation.tooManyForsInComprehension.atNode n

/-! ### Loops -/

/-- The search for a way out of a loop: the last inner loop seen so far, and whether a break was
found that is not inside of it. -/
structure BreakSearch where
  inner : Option Node := none
  found : Bool := false

/-- Looks at one more node of a loop. -/
def BreakSearch.step (loop : Node) (search : BreakSearch) (s : Site) : BreakSearch :=
  if search.found then search
  else if s.node.isLoop && !s.node.is loop then { search with inner := some s.node }
  else if s.node.kind = .broken then { search with found := !search.inner.any s.isInside }
  else search

/-- The loop can be left by a break. -/
def hasBreak (s : Site) : Bool :=
  (s.walk.foldl (BreakSearch.step s.node) {}).found

/-- The last line of a node. -/
def lastLine? (n : Node) : Option Int :=
  (n.walk.filterMap Node.line?).max?

/-- A continue on the last line of a loop. -/
def endsWithContinue (n : Node) : Bool :=
  n.walk.any fun m => m.kind == .continued && m.line?.isSome && m.line? == lastLine? n

/-- What a loop does otherwise, lambdas in its body, and continuing at its end, which has to be
known. -/
def loopBodies (s : Site) : Report :=
  let n := s.node
  if n.isLoop then
    ⟨reportIf (!n.orelse.isEmpty && !hasBreak s) (Violation.uselessLoopElse.atNode n)
        ++ ((n.body.filter fun m => m.containsKind [.lambda]).map fun _ =>
          Violation.lambdaInsideLoop.atNode n)
        ++ reportIf (endsWithContinue n) (Violation.uselessContinue.atNode n),
      if (lastLine? n).isNone then some .noLastLine else none⟩
  else .empty

/-- What a loop or a generator goes over, and what it binds. -/
def loopHead? (n : Node) : Option (Node × Node) :=
  match n.shape with
  | .forLoop _ target iter _ _ | .comprehension target iter _ _ => some (target, iter)
  | _ => none

/-- An expression that should not be written where a loop goes over it. -/
def isWrongIterable (n : Node) : Bool :=
  n.isAny [.list, .listComp, .dict, .dictComp, .setOf, .setComp, .generator]
    || n.isNumber || n.isNamedConstant
    || match n.shape with
      | .tuple [] _ => true
      | _ => false

/-- A loop binds plain names, and goes over something worth it. -/
def loopHeads (s : Site) : List Finding :=
  match loopHead? s.node with
  | some (target, iter) =>
    reportIf (!target.isBlockVariable) (Violation.loopVariableDefinition.atNode target)
      ++ reportIf (isWrongIterable iter.unwrapUnary)
        (Violation.wrongLoopIterType.atNode iter.unwrapUnary)
  | none => []

end Stricture.Rules
