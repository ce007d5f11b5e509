import Stricture.Finding
import Stricture.Tree.Block
import Stricture.Tree.Target

/-!
# Rules for lists of statements

Statements that can never be reached, expressions that do nothing, and blocks that hold nothing but
one statement that makes them useless.
-/

namespace Stricture.Rules

/-- A statement after which the rest of its list is not run. -/
def closes (n : Node) : Bool :=
  n.isAny [.raised, .returned, .broken, .continued]

/-- An expression that does something when it is evaluated, or a statement in its place. -/
def hasEffect (n : Node) : Bool :=
  n.isAny [.call, .awaited, .yielded, .yieldFrom, .returned, .raised, .broken, .continued,
    .nonlocal, .global, .delete, .passed, .assertion]

/-- A statement without effect: an expression that does nothing, and is not the documentation of the
definition in whose body it comes first. -/
def isIdle (documents isFirst : Bool) (n : Node) : Bool :=
  match n.shape with
  | .expression value => !hasEffect value && !(isFirst && documents && value.isText)
  | _ => false

/-- The findings for a list of statements. `documents` says that a text at its start is
documentation, `isFirst` that nothing came before, and `closed` that an earlier statement closes the
list. -/
def statementList (documents : Bool) : Bool → Bool → List Node → List Finding
  | _, _, [] => []
  | isFirst, closed, n :: rest =>
    reportIf closed (Violation.unreachableCode.atNode n)
      ++ reportIf (isIdle documents isFirst n) (Violation.statementHasNoEffect.atNode n)
      ++ statementList documents false (closed || closes n) rest

/-- The kinds whose first text is documentation. -/
def documentedKinds : List Kind :=
  [.functionDef, .asyncFunctionDef, .classDef, .file]

/-- The kinds whose lists of statements are checked. -/
def blockKinds : List Kind :=
  documentedKinds ++ [.branch, .forLoop, .asyncForLoop, .whileLoop, .withBlock, .asyncWithBlock,
    .tryBlock, .handler]

/-- The statements that make a block useless if nothing else stands in it. -/
def emptyingClasses : Kind → List SyntaxClass
  | .forLoop | .asyncForLoop | .whileLoop =>
    [.node .broken, .node .continued, .node .passed, .ellipsis, .node .returned, .node .raised]
  | .tryBlock => [.node .broken, .node .continued, .node .passed, .ellipsis, .node .raised]
  | .withBlock | .asyncWithBlock =>
    [.node .broken, .node .continued, .node .passed, .ellipsis]
  | _ => []

/-- A block with a single statement that makes it useless. -/
def isUselessBlock (n : Node) : Bool :=
  match n.body with
  | [only] => only.belongsToAny (emptyingClasses n.kind)
  | _ => false

/-- The lists of statements of a node. -/
def statementLists (s : Site) : List Finding :=
  let n := s.node
  let documents := n.isAny documentedKinds
  if n.isAny blockKinds then
    statementList documents true false n.body ++ statementList documents true false n.orelse
      ++ statementList documents true false n.finalBody
      ++ reportIf (isUselessBlock n) (Violation.uselessNode.atNode n n.kind.title.toLower)
  else []

end Stricture.Rules
