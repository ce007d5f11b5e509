import Stricture.Finding
import Stricture.Grouping
import Stricture.Name.Quality
import Stricture.Tree.Target

/-!
# Rules for assignments and variables

Variables that are assigned to themselves, variables that are marked as unused, and the targets
into which values are unpacked.
-/

namespace Stricture.Rules

/-! ### Assigning a variable to itself -/

/-- The names that stand at the same position among the targets and among the values. -/
def selfAssigned (n : Node) : List String :=
  match n.assignedValue? with
  | none => []
  | some value =>
    ((n.assignedVariables.zip value.variables).filter fun (name, v) => name == v).map Prod.fst

/-- A variable is not assigned to itself, and not twice by one statement. -/
def selfAssignments (s : Site) : List Finding :=
  if s.node.isAssignment then
    (selfAssigned s.node ++ repeated s.node.assignedVariables).map fun (name : String) =>
      Violation.reassigningVariableToItself.atNode s.node name
  else []

/-! ### Variables that are marked as unused -/

/-- All names say that they are not used. Protected names say so for local variables. -/
def areUnused (isLocal : Bool) (names : List String) : Bool :=
  !names.isEmpty
    && names.all fun name => if Name.isProtected name then isLocal else Name.isUnused name

/-- The finding for names that are bound and not used. -/
def unusedBinding (n : Node) (isLocal : Bool) (names : List String) : List Finding :=
  reportIf (areUnused isLocal names)
    (Violation.unusedVariableIsDefined.atNode n (", ".intercalate names))

/-- Variables that are marked as unused are not read, and not bound alone. -/
def unusedVariables (s : Site) : List Finding :=
  let n := s.node
  match n.shape with
  | .name id usage =>
    reportIf (Name.isUnused id && usage != some .store) (Violation.unusedVariableIsUsed.atNode n id)
  | .assign .. | .annAssign .. =>
    unusedBinding n (!s.contextIsAny [.classDef, .file]) n.assignedVariables
  | .handler _ (some name) _ => if name = "" then [] else unusedBinding n true [name]
  | .withItem _ (some target) =>
    unusedBinding ((s.parent?.map Site.node).getD n) true target.variables
  | _ => []

/-! ### Unpacking -/

/-- The elements of a tuple that are no plain targets. -/
def wrongElements (target : Node) : List Node :=
  match target.shape with
  | .tuple elements _ => elements.filter fun e => e.targetName?.isNone
  | _ => []

/-- The findings for a tuple of targets, reported at a node. -/
def unpackingOf (place target : Node) : List Finding :=
  (wrongElements target).map fun _ => Violation.wrongUnpacking.atNode place

/-- Unpacking binds plain names, and a statement assigns to one target. -/
def unpacking (s : Site) : Report :=
  let n := s.node
  match n.shape with
  | .withBlock _ items _ =>
    .ofFindings (items.flatMap fun item =>
      match item.shape with
      | .withItem _ (some target) => unpackingOf n target
      | _ => [])
  | .comprehension target _ _ _ => .ofFindings (unpackingOf target target)
  | .forLoop _ target _ _ _ => .ofFindings (unpackingOf n target)
  | .assign [] _ => .stopped .noTarget
  | .assign (first :: rest) _ =>
    .ofFindings (reportIf (!rest.isEmpty) (Violation.multipleAssignments.atNode n)
      ++ unpackingOf n first)
  | _ => .empty

end Stricture.Rules
