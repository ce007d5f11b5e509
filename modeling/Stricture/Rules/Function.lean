import Stricture.Finding
import Stricture.Name.Access
import Stricture.Tree.Signature
import Stricture.Tree.Target
import Stricture.Tree.Unwrap

/-!
# Rules for functions and lambdas

Default values, variables that are marked as unused and used nevertheless, what generators raise,
and lambdas that do nothing of their own.
-/

namespace Stricture.Rules

/-! ### Defaults -/

/-- A default value may be a constant, a name, a tuple, or an attribute of an attribute or name. -/
def isPlainDefault (n : Node) : Bool :=
  let value := n.unwrapUnary
  let parts := if value.kind = .attr then value.accessParts else [value]
  parts.all fun part => part.isAny [.name, .attr, .constant, .tuple]

/-- The first default value that is not plain. -/
def defaultValues (g : Signature) : List Finding :=
  ((g.defaults.find? fun d => !isPlainDefault d).toList).map fun d =>
    Violation.complexDefaultValue.atNode d

/-! ### Variables that are marked as unused -/

/-- A name or an exception handler, with the variable that it reads or binds. -/
def mentionedVariable? (n : Node) : Option String :=
  (match n.shape with
    | .name id _ => some id
    | .handler _ name _ => name
    | _ => none).filter fun name => name != ""

/-- The node binds the variable that it mentions. -/
def bindsMentioned (n : Node) : Bool :=
  match n.shape with
  | .name _ (some .store) | .handler .. => true
  | _ => false

/-- Variables in the order in which they were bound first, each with its later mentions. -/
abbrev Mentions := List (String × List Node)

/-- Looks at one more node. A variable is known from its first binding on, and what mentions it
later is kept. -/
def Mentions.step (mentions : Mentions) (n : Node) : Mentions :=
  match mentionedVariable? n with
  | none => mentions
  | some name =>
    if mentions.any fun entry => entry.1 == name then
      if Name.isUnused name then mentions
      else mentions.map fun entry =>
        if entry.1 == name then (name, entry.2 ++ [n]) else entry
    else if bindsMentioned n then mentions ++ [(name, [])]
    else mentions

/-- The mentions of the variables of a function. -/
def mentionsIn (function : Node) : Mentions :=
  (function.body.flatMap Node.walk).foldl Mentions.step []

/-- A variable whose name says that it is not used is mentioned again. -/
def usedProtected (function : Node) : List Finding :=
  (mentionsIn function).flatMap fun (name, nodes) =>
    if Name.isProtected name then
      nodes.map fun n => Violation.unusedVariableIsUsed.atNode n name
    else []

/-! ### Definitions -/

/-- A generator does not raise the exception that ends it. -/
def raisedStops (function : Node) : List Finding :=
  if function.isGenerator then
    (function.walk.filter fun n => n.exceptionName? == some "StopIteration").map fun n =>
      Violation.stopIterationInsideGenerator.atNode n
  else []

/-- Definitions of functions. -/
def functionDefinitions (s : Site) : List Finding :=
  if s.node.isFunction then
    (s.node.signature?.map defaultValues).getD [] ++ usedProtected s.node ++ raisedStops s.node
  else []

/-- A lambda that only passes its parameters on to a function. -/
def isUselessLambda (n : Node) : Bool :=
  match n.shape with
  | .lambda _ body =>
    match body.call?, n.signature? with
    | some c, some g =>
      c.func.name?.isSome && g.defaults.isEmpty && g.keywordDefaults.all Option.isNone
        && c.matchesSignature g
    | _, _ => false
  | _ => false

/-- Lambdas that could be replaced by the function that they call. -/
def lambdas (s : Site) : List Finding :=
  reportIf (isUselessLambda s.node) (Violation.uselessLambda.atNode s.node)

end Stricture.Rules
