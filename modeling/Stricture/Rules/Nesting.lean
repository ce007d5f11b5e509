import Stricture.Finding
import Stricture.Options
import Stricture.Tree.Block
import Stricture.Tree.Signature

/-!
# Rules for nesting

Functions, classes and lambdas inside of others, and statements that are indented too far.
-/

namespace Stricture.Rules

/-- The inner functions that may stand right in the body of a function. -/
def openInnerFunctions : List String :=
  ["decorator", "factory"]

/-- The inner classes that may stand in a class. -/
def openInnerClasses : List String :=
  ["Meta", "Params"]

/-- A function inside of a function. -/
def isNestedFunction (s : Site) (name : String) : Bool :=
  let kinds : List Kind := [.functionDef, .asyncFunctionDef]
  if s.parentIsAny kinds then !openInnerFunctions.contains name else s.contextIsAny kinds

/-- A class inside of a class or a function. -/
def isNestedClass (s : Site) (name : String) : Bool :=
  s.contextIsAny [.functionDef, .asyncFunctionDef]
    || (s.contextIsAny [.classDef] && !openInnerClasses.contains name)

/-- Functions, classes and lambdas inside of others. -/
def nesting (s : Site) : List Finding :=
  let n := s.node
  match n.shape with
  | .classDef name _ _ _ _ => reportIf (isNestedClass s name) (Violation.nestedClass.atNode n name)
  | .functionDef _ name _ _ _ _ =>
    reportIf (isNestedFunction s name) (Violation.nestedFunction.atNode n name)
  | .lambda .. =>
    reportIf ((s.closest? fun p => p.kind == .lambda).isSome)
      (Violation.nestedFunction.atNode n "lambda")
  | _ => []

/-- The statements whose indentation is checked. -/
def indentedKinds : List Kind := [
  .tryBlock, .handler, .forLoop, .withBlock, .whileLoop, .branch, .raised, .returned, .continued,
  .broken, .assign, .expression, .passed, .classDef, .functionDef, .asyncForLoop, .asyncWithBlock,
  .asyncFunctionDef]

/-- Statements that are indented by more than five steps of four columns. -/
def indentation (s : Site) : List Finding :=
  let column := (s.node.position.map Position.column).getD 0
  reportIf (s.node.isAny indentedKinds && 20 < column)
    (Violation.tooDeepNesting.atNode s.node (toString column))

end Stricture.Rules
