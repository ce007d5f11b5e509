import Stricture.Finding
import Stricture.Tree.Target

/-!
# Rules for keywords

Statements that are not wanted at all, raising what is no exception, and context managers.
-/

namespace Stricture.Rules

/-- The word of a statement that is not wanted. -/
def unwantedWord? : Kind → Option String
  | .passed => some "pass"
  | .delete => some "del"
  | .global => some "global"
  | .nonlocal => some "nonlocal"
  | _ => none

/-- Statements that are not wanted. -/
def unwantedStatements (s : Site) : List Finding :=
  (unwantedWord? s.node.kind).toList.map fun (word : String) =>
    Violation.wrongKeyword.atNode s.node word

/-- The constant for a comparison that is not implemented is no exception. -/
def raisedErrors (s : Site) : List Finding :=
  reportIf (s.node.exceptionName? == some "NotImplemented")
    (Violation.raiseNotImplemented.atNode s.node)

/-- A statement opens one context manager, and binds it to plain names. -/
def contextManagers (s : Site) : List Finding :=
  match s.node.shape with
  | .withBlock _ items _ =>
    reportIf (1 < items.length) (Violation.multipleContextManagerAssignments.atNode s.node)
  | .withItem _ (some target) =>
    let place := (s.parent?.map Site.node).getD s.node
    reportIf (!target.isBlockVariable) (Violation.contextManagerVariableDefinition.atNode place)
  | _ => []

end Stricture.Rules
