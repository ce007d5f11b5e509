import Stricture.Finding
import Stricture.Tree.Signature
import Stricture.Tree.Target

/-!
# Rules for returning and yielding

A function that returns or yields a value somewhere does so everywhere, does not end with an empty
return, and does not bind a variable just to return it.
-/

namespace Stricture.Rules

/-- The value that is returned or yielded, for nodes that return or yield. -/
def handedValue? (kind : Kind) (n : Node) : Option (Option Node) :=
  match n.shape with
  | .returned value => if kind = .returned then some value else none
  | .yielded value => if kind = .yielded then some value else none
  | _ => none

/-- The nodes of a kind below a function that hand over no value, although others do. -/
def missingValues (kind : Kind) (function : Node) : List Node :=
  let handing := function.walk.filter fun n => (handedValue? kind n).isSome
  if handing.any fun n => (handedValue? kind n).any Option.isSome then
    handing.filter fun n => (handedValue? kind n).any Option.isNone
  else []

/-- A return without a value that is the last statement of a function. -/
def isEmptyLastReturn (s : Site) : Bool :=
  match s.node.shape, s.parent? with
  | .returned none, some parent =>
    parent.node.isFunction && parent.node.body.getLast?.any s.node.is
  | _, _ => false

/-- Returning and yielding are consistent. -/
def returnConsistency (s : Site) : List Finding :=
  if s.node.isFunction then
    (missingValues .returned s.node).map (fun n => Violation.inconsistentReturn.atNode n)
      ++ (missingValues .yielded s.node).map fun n => Violation.inconsistentYield.atNode n
  else reportIf (isEmptyLastReturn s) (Violation.inconsistentReturn.atNode s.node)

/-! ### Variables that are only returned -/

/-- The nodes whose context is the function itself. -/
def ownNodes (s : Site) : List Node :=
  (s.walk.filter fun t => t.context?.any s.node.is).map Site.node

/-- The name that a plain assignment binds, if its first target is one. -/
def firstTarget? (n : Node) : Option String :=
  n.targets.head?.bind Node.name?

/-- The place where a variable is read: a name that is loaded, or the target of an augmented
assignment. -/
def readName? (n : Node) : Option Node :=
  match n.shape with
  | .name _ (some .load) => some n
  | .augAssign target _ _ => if target.name?.isSome then some target else none
  | _ => none

/-- The name that is returned as it is. -/
def returnedName? (n : Node) : Option Node :=
  match n.shape with
  | .returned (some value) => if value.name?.isSome then some value else none
  | _ => none

/-- The variable is read only where it is returned. -/
def isOnlyReturned (nodes : List Node) (v : String) : Bool :=
  let returned := (nodes.filterMap returnedName?).filter fun n => n.name? == some v
  ((nodes.filterMap readName?).filter fun n => n.name? == some v).all fun n =>
    returned.any n.is

/-- The variables that nodes bind and do nothing with but return them, each reported at the last of
these returns. -/
def onlyReturned (nodes : List Node) : List Finding :=
  let bound := nodes.filterMap firstTarget?
  let names := ((nodes.filterMap returnedName?).filterMap Node.name?).eraseDups
  (names.filter fun v => bound.contains v && isOnlyReturned nodes v).flatMap fun v =>
    let returns := nodes.filter fun n => (returnedName? n).any fun m => m.name? == some v
    returns.getLast?.toList.map fun n => Violation.inconsistentReturnVariable.atNode n

/-- The variables that a function binds and does nothing with but return them. All its assignments
have to have a target. -/
def returnedVariables (s : Site) : Report :=
  if s.node.isFunction then
    let nodes := ownNodes s
    if nodes.any fun n => n.isAssignment && n.targets.isEmpty then .stopped .noTarget
    else .ofFindings (onlyReturned nodes)
  else .empty

end Stricture.Rules
