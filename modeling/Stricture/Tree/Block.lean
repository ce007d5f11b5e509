import Stricture.Tree.Kind

/-!
# Blocks

The lists of statements that hang on a node.
-/

namespace Stricture.Node

/-- The statements of the main block. -/
def body (n : Node) : List Node :=
  match n.shape with
  | .file body | .functionDef _ _ _ body _ _ | .classDef _ _ _ body _ | .forLoop _ _ _ body _
  | .whileLoop _ body _ | .branch _ body _ | .withBlock _ _ body | .tryBlock body _ _ _
  | .tryGroup body _ _ _ | .handler _ _ body | .matchCase _ _ body => body
  | _ => []

/-- The statements of the block that is run otherwise. -/
def orelse (n : Node) : List Node :=
  match n.shape with
  | .forLoop _ _ _ _ orelse | .whileLoop _ _ orelse | .branch _ _ orelse
  | .tryBlock _ _ orelse _ | .tryGroup _ _ orelse _ => orelse
  | _ => []

/-- The statements of the block that is run in the end. -/
def finalBody (n : Node) : List Node :=
  match n.shape with
  | .tryBlock _ _ _ final | .tryGroup _ _ _ final => final
  | _ => []

/-- The handlers of exceptions. -/
def handlers (n : Node) : List Node :=
  match n.shape with
  | .tryBlock _ handlers _ _ | .tryGroup _ handlers _ _ => handlers
  | _ => []

/-- The decorators of a definition. -/
def decorators (n : Node) : List Node :=
  match n.shape with
  | .functionDef _ _ _ _ decorators _ | .classDef _ _ _ _ decorators => decorators
  | _ => []

/-- The type hint of a variable or a parameter. -/
def hint? (n : Node) : Option Node :=
  match n.shape with
  | .annAssign _ hint _ => some hint
  | .param _ hint => hint
  | _ => none

/-- The type hint for what a function returns. -/
def returnHint? (n : Node) : Option Node :=
  match n.shape with
  | .functionDef _ _ _ _ _ returns => returns
  | _ => none

end Stricture.Node
