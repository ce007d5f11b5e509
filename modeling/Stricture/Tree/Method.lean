import Stricture.Tree.Signature
import Stricture.Tree.Target

/-!
# Methods and branches

What a function is to the class around it, and how conditional statements hang together in chains.
Both depend on where a node stands, so they are asked of a site.
-/

namespace Stricture

/-- What a function is to its class. -/
inductive MethodKind where
  | ordinary
  | ofClass
  | static
  deriving DecidableEq

namespace MethodKind

/-- The name of a kind of method. -/
def title : MethodKind → String
  | ordinary => "method"
  | ofClass => "classmethod"
  | static => "staticmethod"

/-- The kind that a decorator makes of a function. -/
def ofDecorator? (name : String) : Option MethodKind :=
  if name = "classmethod" then some ofClass
  else if name = "staticmethod" then some static
  else none

end MethodKind

/-- The name of a decorator: that of what is called, if it is called. -/
def Node.decoratorName? : Node → Option String
  | .mk _ _ (.call func _ _) => func.decoratorName?
  | .mk _ _ (.attr _ attr _) => some attr
  | .mk _ _ (.name id _) => some id
  | _ => none

namespace Node

/-- The kind of method that an assignment makes of a function that was defined before, with the name
of the function. -/
def lateDecoration? (n : Node) : Option (String × MethodKind) :=
  match n.shape with
  | .assign _ value =>
    match value.call? with
    | some ⟨func, [arg], _⟩ => do
      let kind ← MethodKind.ofDecorator? (← func.name?)
      return (← arg.name?, kind)
    | _ => none
  | _ => none

/-- A class whose instances are classes. -/
def isMetaclass (n : Node) : Bool :=
  match n.shape with
  | .classDef _ bases _ _ _ =>
    bases.any fun base =>
      match base.shape with
      | .name id _ => ["type", "ABCMeta"].contains id
      | .attr _ attr _ => ["type", "ABCMeta"].contains attr
      | _ => false
  | _ => false

/-- The kind of method that a function of a class is. A late decoration comes first, then the first
decorator that decides, then the name of the function and the class. -/
def methodKindIn (function cls : Node) : MethodKind :=
  match function.shape with
  | .functionDef _ name _ _ decorators _ =>
    let late := (cls.children.filterMap lateDecoration?).reverse.find? fun d => d.1 == name
    let decorated := decorators.filterMap fun d => d.decoratorName?.bind MethodKind.ofDecorator?
    let isOfClass :=
      ["__new__", "__init_subclass__", "__class_getitem__"].contains name || cls.isMetaclass
    (late.map Prod.snd).getD (decorated.head?.getD (if isOfClass then .ofClass else .ordinary))
  | _ => .ordinary

/-- Statements that stand between a class and its functions without coming between them. -/
def isTransparent (n : Node) : Bool :=
  n.isAny [.branch, .whileLoop, .forLoop, .withBlock, .tryBlock, .asyncWithBlock, .asyncForLoop]

end Node

namespace Site

/-- What the function at the site is to its class; nothing, if it is not a method. -/
def methodKind? (s : Site) : Option MethodKind :=
  if s.node.isFunction then
    match s.above.dropWhile Node.isTransparent with
    | cls :: _ => if cls.kind = .classDef then some (s.node.methodKindIn cls) else none
    | [] => none
  else none

end Site

/-! ### Chains of branches -/

/-- The node is a branch that continues: what it does otherwise holds another branch. -/
def Node.isChained (n : Node) : Bool :=
  n.kind == .branch && n.orelse.any fun m => m.kind == .branch

/-- The branch of which the branch at the site is a continuation. -/
def Site.chain? (s : Site) : Option Node :=
  match s.above with
  | p :: _ =>
    if s.node.kind = .branch ∧ p.kind = .branch ∧ p.orelse.any s.node.is then some p else none
  | [] => none

end Stricture
