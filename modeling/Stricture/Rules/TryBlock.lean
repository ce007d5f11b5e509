import Stricture.Grouping
import Stricture.Subject
import Stricture.Tree.Block
import Stricture.Tree.Unwrap

/-!
# Rules for handling exceptions

Exceptions that are handled twice, ways out that hide each other, handlers that do nothing, and
blocks inside of blocks.
-/

namespace Stricture.Rules

/-! ### Exceptions that are handled twice -/

/-- The exceptions that a handler names: a name, or the elements of a tuple. -/
def handledTypes (s : Site) : List Site :=
  match s.node.shape with
  | .handler (some type) _ _ =>
    match type.shape with
    | .name .. => [s.under type]
    | .tuple elements _ => elements.map (s.under type).under
    | _ => []
  | _ => []

/-- The exceptions that all handlers name, in order. -/
def allHandledTypes (s : Site) : List Site :=
  s.node.handlers.flatMap fun h => handledTypes (s.under h)

/-- The texts of exceptions that are named more than once. -/
def duplicateExceptions (text : Site → String) (s : Site) : List String :=
  repeated ((allHandledTypes s).map fun t => Text.strip (text t))

/-! ### Ways out -/

/-- The node holds a statement that leaves the block. -/
def leaves (n : Node) : Bool :=
  n.containsKind [.returned, .raised, .broken]

/-- A statement can be left in more than one of its blocks, so that one way out hides another. -/
def hasCompetingExits (n : Node) : Bool :=
  let body := n.body.any leaves
  let handlers := n.handlers.any leaves
  let orelse := n.orelse.any leaves
  let final := n.finalBody.any leaves
  (final && (body || handlers || orelse)) || (orelse && body)

/-- A handler that does nothing but raise the exception again. -/
def isUselessHandler (name : Option String) (body : List Node) : Bool :=
  match body with
  | [statement] =>
    match statement.shape with
    | .raised none _ => true
    | .raised (some error) _ =>
      error.kind != .call &&
        match error.name?, name.filter fun n => n != "" with
        | some raised, some caught => raised == caught
        | _, _ => true
    | _ => false
  | _ => false

/-- Statements that handle exceptions, and their handlers. -/
def tryBlocks : RenderingRule := fun seen s =>
  let n := s.node
  match n.shape with
  | .tryBlock _ handlers _ final =>
    let useless :=
      reportIf (!final.isEmpty && handlers.isEmpty) (Violation.uselessFinally.atNode n)
    let findings := useless
      ++ (duplicateExceptions seen.text s).map (fun (t : String) =>
        Violation.duplicateException.atNode n t)
      ++ reportIf (hasCompetingExits n) (Violation.tryExceptMultipleReturnPath.atNode n)
    RenderingRule.requiring seen (allHandledTypes s) useless
      (.ofFindings findings, seen.markAll (allHandledTypes s))
  | .handler type name body =>
    let findings :=
      reportIf (isUselessHandler name body) (Violation.uselessExceptCase.atNode n)
        ++ reportIf (type.bind Node.name? == some "BaseException")
          (Violation.baseException.atNode n)
    (.ofFindings findings, seen)
  | _ => (.empty, seen)

/-- A statement that handles exceptions inside of another one. -/
def nestedTryBlocks (s : Site) : List Finding :=
  if s.node.kind = .tryBlock then
    (s.node.walk.filter fun n => n.kind == .tryBlock && !n.is s.node).map fun n =>
      Violation.nestedTry.atNode n
  else []

end Stricture.Rules
