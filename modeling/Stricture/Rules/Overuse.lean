import Stricture.Grouping
import Stricture.Subject
import Stricture.Tree.Block
import Stricture.Tree.Signature

/-!
# Rules for repeated texts and expressions

Uses are equal if their texts are. Texts are counted in a whole module, expressions in a module and
in each of its functions.
-/

namespace Stricture.Rules

/-! ### Texts -/

/-- The node at the site is itself a type hint. -/
def isHint (s : Site) : Bool :=
  match s.above with
  | p :: _ => p.hint?.any s.node.is || p.returnHint?.any s.node.is
  | [] => false

/-- The text at a site, unless it is a type hint. -/
def usedText? (s : Site) : Option String :=
  match s.node.literal? with
  | some (.text t) => if isHint s then none else some t
  | _ => none

/-- Texts that are used too often. -/
def overusedTexts (o : Options) (sites : List Site) : List Finding :=
  (grouped (fun t => t) (sites.filterMap usedText?)).flatMap fun (t, uses) =>
    reportIf (o.maxStringUsages.isExceededBy uses.length)
      (Violation.overusedString.atFile (if t = "" then "''" else t))

/-! ### Expressions -/

/-- The kinds of expressions whose use is counted. -/
def countedKinds : List Kind := [
  .assertion, .boolean, .binary, .call, .compare, .starred, .subscript, .unary, .lambda, .dictComp,
  .dict, .list, .listComp, .tuple, .generator, .setOf, .setComp]

/-- The function around a site. -/
def functionAround? (s : Site) : Option Node :=
  s.closest? Node.isFunction

/-- The site stands at the given node or below it. -/
def isWithin (s : Site) (n : Node) : Bool :=
  s.node.is n || s.isInside n

/-- The site belongs to a decorator of the function around it. -/
def isInDecorator (s : Site) : Bool :=
  (functionAround? s).any fun f => f.decorators.any (isWithin s)

/-- A call of a method of the object itself. -/
def isOwnMethodCall (n : Node) : Bool :=
  n.call?.any fun c =>
    match c.func.shape with
    | .attr value _ _ => value.name?.any specialParameters.contains
    | _ => false

/-- The site belongs to the type hint of the variable or parameter around it. -/
def isInHint (s : Site) : Bool :=
  (s.closest? fun n => n.isAny [.annAssign, .param]).any fun n => n.hint?.any (isWithin s)

/-- The use of the expression at a site is counted. -/
def isCounted (s : Site) : Bool :=
  s.node.isAny countedKinds && !isInDecorator s && !isOwnMethodCall s.node && !isInHint s
    && !s.contextIsAny [.classDef]

/-- An expression with its text. -/
structure RenderedUse where
  text : String
  site : Site

/-- Renders expressions one after the other. -/
def renderUses : Rendered → List Site → List RenderedUse × Rendered
  | seen, [] => ([], seen)
  | seen, s :: rest =>
    let (uses, seen') := renderUses (seen.mark s) rest
    (⟨Text.strip (seen.text s), s⟩ :: uses, seen')

/-- The findings for uses of equal texts that are over a limit. -/
def overLimitUses (limit : Limit) (uses : List RenderedUse) : List Finding :=
  (grouped RenderedUse.text uses).flatMap fun (text, group) =>
    group.head?.toList.flatMap fun first =>
      reportIf (limit.isExceededBy group.length)
        (Violation.overusedExpression.atNode first.site.node
          (text ++ "; used " ++ toString group.length ++ " times"))

/-- The function to which a use belongs. -/
def RenderedUse.functionId? (u : RenderedUse) : Option Nat :=
  (functionAround? u.site).map Node.id

/-- The findings for all uses: in the module, and in each function. -/
def overusedIn (o : Options) (uses : List RenderedUse) : List Finding :=
  let inFunctions := uses.filter fun u => u.functionId?.isSome
  overLimitUses o.maxModuleExpressions uses
    ++ (grouped RenderedUse.functionId? inFunctions).flatMap fun group =>
      overLimitUses o.maxFunctionExpressions group.2

/-- Expressions that are used too often. Nothing is said about a program with an expression that has
no text. -/
def overusedExpressions : Judgement := fun subject memory =>
  let sites := subject.program.sites.filter isCounted
  let fault := memory.rendered.firstError? sites
  let written := sites.takeWhile fun s => (memory.rendered.error? s).isNone
  let (uses, seen) := renderUses memory.rendered written
  (match fault with
    | some e => .stopped (.rendering e)
    | none => .ofFindings (overusedIn subject.options uses),
    { memory with rendered := seen })

end Stricture.Rules
