import Stricture.Finding
import Stricture.Tree.Signature
import Stricture.Tree.Target

/-!
# Rules for the layout of lists and type hints

The elements of a list stand either all on one line or each on a line of its own. What is known
while going over the elements is a mode: `some true` after an element that began a new line,
`some false` after one that did not, and `none` as long as either may follow.
-/

namespace Stricture.Rules

/-- One more element: whether it breaks the rule, and the mode after it. -/
def layoutStep (mode : Option Bool) (breaks : Bool) : Bool × Option Bool :=
  if mode = some !breaks then (true, none) else (false, some breaks)

/-- How often the rule is broken by elements on the given lines, the first of which comes after an
element on line `previous`. -/
def layoutFaults (previous : Int) : Option Bool → List Int → Nat
  | _, [] => 0
  | mode, line :: rest =>
    let (isBroken, mode') := layoutStep mode (previous != line)
    (if isBroken then 1 else 0) + layoutFaults line mode' rest

/-- How often the rule is broken by the elements of a node. The first element of a call or a
definition that begins on the line of the node keeps all others there; elements of a display are not
bound by the line of its bracket. -/
def countLayoutFaults (isDisplay : Bool) (line : Int) : List Int → Nat
  | [] => 0
  | first :: rest =>
    layoutFaults first (if first = line ∧ !isDisplay then some false else none) rest

/-- The elements of a node that have to be laid out, and whether the node is a display. -/
def layoutElements (n : Node) : Bool × List Node :=
  match n.shape with
  | .list elements _ | .setOf elements | .tuple elements _ => (true, elements)
  | .dict .. => (true, n.dictElements)
  | .call _ args keywords => (false, args ++ keywords.filterMap fun k => k.keyword?.map Prod.snd)
  | .functionDef .. => (false, (n.signature?.map Signature.all).getD [])
  | .classDef _ bases keywords _ _ =>
    (false, bases ++ keywords.filterMap fun k => k.keyword?.map Prod.snd)
  | _ => (false, [])

/-- The lines of nodes up to the first one that has none. -/
def knownLines (nodes : List Node) : List Int :=
  ((nodes.map Node.line?).takeWhile Option.isSome).filterMap fun line => line

/-- The layout of the elements of a node. Its line and theirs have to be known. -/
def elementLayout (s : Site) : Report :=
  let (isDisplay, elements) := layoutElements s.node
  match elements, s.node.line? with
  | [], _ => .empty
  | _, none => .stopped .noPosition
  | elements, some line =>
    let lines := knownLines elements
    let faults := countLayoutFaults isDisplay line lines
    ⟨List.replicate faults (Violation.parametersIndentation.atNode s.node),
      if lines.length < elements.length then some .noPosition else none⟩

/-- The lines of an expression. -/
def linesBelow (n : Node) : List Int :=
  (n.walk.filterMap Node.line?).filter fun line => line != 0

/-- An expression takes a single line, which has to be known if it has parts on lines. -/
def singleLine (place n : Node) : Report :=
  match n.line?, linesBelow n with
  | _, [] => .empty
  | none, _ => .stopped .noPosition
  | some line, lines =>
    .ofFindings (reportIf (lines.any fun l => l != line)
      (Violation.multilineFunctionHint.atNode place))

/-- A type hint of a parameter or of a result takes a single line. -/
def hintLayout (s : Site) : Report :=
  match s.node.shape with
  | .param .. => singleLine s.node s.node
  | .functionDef _ _ _ _ _ (some returns) => singleLine s.node returns
  | _ => .empty

end Stricture.Rules
