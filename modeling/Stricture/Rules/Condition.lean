import Stricture.Comparison.Bounds
import Stricture.Grouping
import Stricture.Subject
import Stricture.Tree.Method
import Stricture.Tree.Unwrap

/-!
# Rules for conditions

Branches and conditional expressions, and conditions joined by `and` and `or`.
-/

namespace Stricture.Rules

/-! ### Branches that could be plain expressions -/

/-- The condition of a branch or a conditional expression. -/
def conditionOf? (n : Node) : Option Node :=
  match n.shape with
  | .branch test _ _ | .conditional test _ _ => some test
  | _ => none

/-- The target of a block that only assigns a truth value to it. -/
def truthTarget? (s : Site) (block : List Node) : Option Site :=
  match block with
  | [statement] =>
    match statement.assignedValue?.bind Node.literal?, statement.targets with
    | some (.bool _), [target] => some ((s.under statement).under target)
    | _, _ => none
  | _ => none

/-- The targets of both blocks of a branch that stands alone. -/
def truthTargets (s : Site) : Option Site × Option Site :=
  if s.node.kind = .branch ∧ s.chain?.isNone ∧ !s.node.isChained then
    (truthTarget? s s.node.body, truthTarget? s s.node.orelse)
  else (none, none)

/-- Both blocks assign a truth value to the same target. -/
def isSimplifiableBranch (text : Site → String) (s : Site) : Bool :=
  match truthTargets s with
  | (some a, some b) => Text.strip (text a) != "" && Text.strip (text a) == Text.strip (text b)
  | _ => false

/-- A conditional expression between the two truth values. -/
def isSimplifiableExpression (body orelse : Node) : Bool :=
  match body.literal?, orelse.literal? with
  | some (.bool a), some (.bool b) => a != b
  | _, _ => false

/-- A condition that is always the same. -/
def isConstantCondition (test : Node) : Bool :=
  let n := test.unwrapUnary
  n.isNumber || n.isText || n.isBytes || n.isNamedConstant
    || n.isAny [.list, .setOf, .dict, .tuple]

/-- Branches and conditional expressions. -/
def conditionals : RenderingRule := fun seen s =>
  let n := s.node
  let constant := (conditionOf? n).toList.flatMap fun test =>
    reportIf (isConstantCondition test) (Violation.constantCondition.atNode n)
  match n.shape with
  | .branch .. =>
    let targets := (truthTargets s).1.toList ++ (truthTargets s).2.toList
    RenderingRule.requiring seen targets []
      (.ofFindings (reportIf (isSimplifiableBranch seen.text s) (Violation.simplifiableIf.atNode n)
          ++ constant),
        seen.markAll targets)
  | .conditional _ body orelse =>
    (.ofFindings (reportIf (isSimplifiableExpression body orelse)
          (Violation.simplifiableIf.atNode n)
        ++ reportIf (s.parentIsAny [.branch, .boolean, .binary, .unary, .compare])
          (Violation.nestedTernary.atNode n)
        ++ constant),
      seen)
  | _ => (.empty, seen)

/-! ### Branches -/

/-- A negated condition. -/
def isNegated (test : Node) : Bool :=
  match test.shape with
  | .unary .not _ => true
  | .compare _ ops _ => ops.contains .notEq
  | _ => false

/-- A condition does not go on below the line of its statement, which has to be known if the
condition has parts on lines. -/
def conditionLayout (n test : Node) : Report :=
  match n.line?, test.walk.filterMap Node.line? with
  | _, [] => .empty
  | none, _ => .stopped .noLine
  | some line, lines =>
    .ofFindings (reportIf (lines.any fun l => line < l) (Violation.multilineConditions.atNode n))

/-- A branch with an else that stands alone and leaves its block in the first case. -/
def isUselessElse (s : Site) : Bool :=
  !s.node.orelse.isEmpty && s.chain?.isNone && !s.node.isChained
    && s.node.body.any fun n => n.isAny [.broken, .raised, .returned, .continued]

/-- The function that a call calls. -/
def calledSite? (s : Site) : Option Site :=
  s.node.call?.map fun c => s.under c.func

/-- Branches, and lengths used as conditions. -/
def branches : RenderingRule := fun seen s =>
  let n := s.node
  match conditionOf? n with
  | none => (.empty, seen)
  | some test =>
    let statement : Report :=
      if n.kind = .branch then
        (Report.ofFindings
          (reportIf (!n.orelse.isEmpty && isNegated test) (Violation.negatedConditions.atNode n)
            ++ reportIf (isUselessElse s) (Violation.uselessReturningElse.atNode n))).andThen
          (conditionLayout n test)
      else .empty
    let called := (calledSite? (s.under test)).toList
    match statement.fault with
    | some _ => (statement, seen)
    | none =>
      let isLength := seen.calledName (s.under test) == "len"
      RenderingRule.requiring seen called statement.findings
        (.ofFindings
          (statement.findings ++ reportIf isLength (Violation.uselessLenCompare.atNode n)),
          seen.markAll called)

/-! ### Joined conditions -/

mutual

/-- The conditions that are joined at a site, through joined conditions right below it. -/
def conditionLeaves (above : List Node) : Node → List Site
  | .mk id position (.boolean op values) =>
    leavesOfAll (.mk id position (.boolean op values) :: above) values
  | n => [⟨n, above⟩]

/-- The conditions of several values. -/
def leavesOfAll (above : List Node) : List Node → List Site
  | [] => []
  | n :: rest => conditionLeaves above n ++ leavesOfAll above rest

end

/-- The leaves of the outermost joined conditions. -/
def outermostLeaves (s : Site) : List Site :=
  if s.node.kind = .boolean ∧ !s.parentIsAny [.boolean] then conditionLeaves s.above s.node else []

/-- The type tests among the values of a condition: calls with two arguments. -/
def twoArgumentCalls (s : Site) : List Site :=
  match s.node.shape with
  | .boolean .or values =>
    (values.map s.under).filter fun v => v.node.call?.any fun c => c.args.length == 2
  | _ => []

/-- What a call is about: its first argument. -/
def firstArgument? (s : Site) : Option Site :=
  match s.node.shape with
  | .call _ (first :: _) _ => some (s.under first)
  | _ => none

/-- The type tests of an alternative. -/
def typeTests (seen : Rendered) (s : Site) : List Site :=
  (twoArgumentCalls s).filter fun v => seen.calledName v == "isinstance"

/-- What is tested for its type more than once in an alternative. -/
def repeatedTypeTests (seen : Rendered) (s : Site) : List String :=
  repeated ((typeTests seen s).filterMap fun v =>
    (firstArgument? v).map fun a => Text.strip (seen.text a))

/-- Conditions that are joined with themselves, and type tests that could be one. -/
def joinedConditions : RenderingRule := fun seen s =>
  if s.node.kind = .boolean then
    let leaves := outermostLeaves s
    let same := reportIf (hasRepetition (leaves.map seen.text))
      (Violation.sameElementsInCondition.atNode s.node)
    let seen' := seen.markAll leaves
    let tests := (repeatedTypeTests seen' s).map fun (t : String) =>
      Violation.unmergedIsinstanceCalls.atNode s.node t
    let seen'' := seen'.markAll ((twoArgumentCalls s).filterMap calledSite?)
    RenderingRule.requiring seen leaves []
      (.ofFindings (same ++ tests), seen''.markAll ((typeTests seen' s).filterMap firstArgument?))
  else (.empty, seen)

/-! ### Joined conditions that hide another expression -/

/-- The comparison that a membership test stands for: none of several values, or one of them. -/
def membershipOp : BooleanOp → CompareOp
  | .and => .notEq
  | .or => .eq

/-- The values at the start of a condition that compare in the way of a membership test. -/
def membershipCompares (s : Site) : List Site :=
  match s.node.shape with
  | .boolean op values =>
    (values.map s.under).takeWhile fun v =>
      match v.node.shape with
      | .compare _ [first] _ => first == membershipOp op
      | _ => false
  | _ => []

/-- The left sides of such comparisons. -/
def membershipSubjects (s : Site) : List Site :=
  (membershipCompares s).filterMap fun v => v.operands.head?

/-- The number of values of a condition. -/
def valueCount (n : Node) : Nat :=
  match n.shape with
  | .boolean _ values => values.length
  | _ => 0

/-- All values of a condition compare the same expression in the way of a membership test: its
text, with a line break after it. -/
def implicitMembership? (text : Site → String) (s : Site) : Option String :=
  let texts := (membershipSubjects s).map text
  if texts.length = valueCount s.node then
    texts.head?.bind fun t => if texts.all (· == t) then some (t ++ "\n") else none
  else none

/-- A condition of the form `a and b or c`, which chooses between two values. -/
def isImplicitTernary (s : Site) : Bool :=
  !s.parentIsAny [.boolean] &&
    match s.node.shape with
    | .boolean .or [first, second] =>
      second.kind != .boolean &&
        match first.shape with
        | .boolean .and [_, chosen] => chosen.kind != .boolean
        | _ => false
    | _ => false

/-- The condition is a conjunction. -/
def isConjunction (n : Node) : Bool :=
  match n.shape with
  | .boolean .and _ => true
  | _ => false

/-- A conjunction that hides a chain of comparisons, after other findings. -/
def hiddenChains (seen : Rendered) (s : Site) (before : List Finding) : Report × Rendered :=
  let operands := s.joinedCompares.flatMap Site.linkedOperands
  if isConjunction s.node then
    RenderingRule.requiring seen operands before
      (.ofFindings (before ++ reportIf (!s.boundsAreFine seen.text)
          (Violation.implicitComplexCompare.atNode s.node)),
        seen.markAll operands)
  else (.ofFindings before, seen)

/-- Conditions that hide a membership test, a choice, or a chain of comparisons. There has to be
something that is joined. -/
def hiddenExpressions : RenderingRule := fun seen s =>
  if s.node.kind = .boolean then
    if valueCount s.node = 0 then (.stopped .noCondition, seen)
    else
      let membership := (implicitMembership? seen.text s).toList.map fun (t : String) =>
        Violation.implicitInCondition.atNode s.node t
      let ternary := reportIf (isImplicitTernary s) (Violation.implicitTernary.atNode s.node)
      RenderingRule.requiring seen (membershipSubjects s) []
        (hiddenChains (seen.markAll (membershipSubjects s)) s (membership ++ ternary))
  else (.empty, seen)

end Stricture.Rules
