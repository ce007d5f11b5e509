import Stricture.Tree.Site

/-!
# Kinds of syntax

The kinds of nodes under their names in the grammar of the language, the families that they form,
and classes, which also cover usages, operators and the kinds of constants.
-/

namespace Stricture

/-- The kinds of nodes. -/
inductive Kind where
  | name | attr | subscript | starred | constant | tuple | list | setOf | dict | binary | boolean
  | unary | compare | conditional | lambda | walrus | call | awaited | yielded | yieldFrom
  | listComp | setComp | dictComp | generator | joined | formatted | slice
  | file | functionDef | asyncFunctionDef | classDef | returned | delete | assign | augAssign
  | annAssign | forLoop | asyncForLoop | whileLoop | branch | withBlock | asyncWithBlock | raised
  | tryBlock | tryGroup | assertion | imported | importedFrom | global | nonlocal | expression
  | passed | broken | continued | matched
  | handler | params | param | keyword | importedName | withItem | comprehension | matchCase
  | matchValue | matchSingleton | matchSequence | matchMapping | matchClass | matchStar | matchAs
  | matchOr
  deriving DecidableEq

/-- The families of kinds. A file and the parts of statements and expressions belong to none of the
first three. -/
inductive Family where
  | expression
  | statement
  | pattern
  | part
  deriving DecidableEq

namespace Kind

/-- The family of a kind. -/
def family : Kind → Family
  | .name | attr | subscript | starred | constant | tuple | list | setOf | dict | binary | boolean
  | unary | compare | conditional | lambda | walrus | call | awaited | yielded | yieldFrom
  | listComp | setComp | dictComp | generator | joined | formatted | slice => .expression
  | functionDef | asyncFunctionDef | classDef | returned | delete | assign | augAssign | annAssign
  | forLoop | asyncForLoop | whileLoop | branch | withBlock | asyncWithBlock | raised | tryBlock
  | tryGroup | assertion | imported | importedFrom | global | nonlocal | expression | passed
  | broken | continued | matched => .statement
  | matchValue | matchSingleton | matchSequence | matchMapping | matchClass | matchStar | matchAs
  | matchOr => .pattern
  | file | handler | params | param | keyword | importedName | withItem | comprehension
  | matchCase => .part

/-- The name of a kind in the grammar. -/
def title : Kind → String
  | .name => "Name" | attr => "Attribute" | subscript => "Subscript" | starred => "Starred"
  | constant => "Constant" | tuple => "Tuple" | list => "List" | setOf => "Set" | dict => "Dict"
  | binary => "BinOp" | boolean => "BoolOp" | unary => "UnaryOp" | compare => "Compare"
  | conditional => "IfExp" | lambda => "Lambda" | walrus => "NamedExpr" | call => "Call"
  | awaited => "Await" | yielded => "Yield" | yieldFrom => "YieldFrom" | listComp => "ListComp"
  | setComp => "SetComp" | dictComp => "DictComp" | generator => "GeneratorExp"
  | joined => "JoinedStr" | formatted => "FormattedValue" | slice => "Slice"
  | file => "Module" | functionDef => "FunctionDef" | asyncFunctionDef => "AsyncFunctionDef"
  | classDef => "ClassDef" | returned => "Return" | delete => "Delete" | assign => "Assign"
  | augAssign => "AugAssign" | annAssign => "AnnAssign" | forLoop => "For"
  | asyncForLoop => "AsyncFor" | whileLoop => "While" | branch => "If" | withBlock => "With"
  | asyncWithBlock => "AsyncWith" | raised => "Raise" | tryBlock => "Try" | tryGroup => "TryStar"
  | assertion => "Assert" | imported => "Import" | importedFrom => "ImportFrom"
  | global => "Global" | nonlocal => "Nonlocal" | expression => "Expr" | passed => "Pass"
  | broken => "Break" | continued => "Continue" | matched => "Match"
  | handler => "ExceptHandler" | params => "arguments" | param => "arg" | keyword => "keyword"
  | importedName => "alias" | withItem => "withitem" | comprehension => "comprehension"
  | matchCase => "match_case" | matchValue => "MatchValue" | matchSingleton => "MatchSingleton"
  | matchSequence => "MatchSequence" | matchMapping => "MatchMapping" | matchClass => "MatchClass"
  | matchStar => "MatchStar" | matchAs => "MatchAs" | matchOr => "MatchOr"

/-- All kinds. -/
def all : List Kind := [
  .name, .attr, .subscript, .starred, .constant, .tuple, .list, .setOf, .dict, .binary, .boolean,
  .unary, .compare, .conditional, .lambda, .walrus, .call, .awaited, .yielded, .yieldFrom,
  .listComp, .setComp, .dictComp, .generator, .joined, .formatted, .slice, .file, .functionDef,
  .asyncFunctionDef, .classDef, .returned, .delete, .assign, .augAssign, .annAssign, .forLoop,
  .asyncForLoop, .whileLoop, .branch, .withBlock, .asyncWithBlock, .raised, .tryBlock, .tryGroup,
  .assertion, .imported, .importedFrom, .global, .nonlocal, .expression, .passed, .broken,
  .continued, .matched, .handler, .params, .param, .keyword, .importedName, .withItem,
  .comprehension, .matchCase, .matchValue, .matchSingleton, .matchSequence, .matchMapping,
  .matchClass, .matchStar, .matchAs, .matchOr]

/-- The kind with a name. -/
def ofTitle? (title : String) : Option Kind :=
  all.find? fun k => k.title == title

end Kind

/-- The kind of a layer. -/
def Shape.kind {α : Type} : Shape α → Kind
  | .name .. => .name | .attr .. => .attr | .subscript .. => .subscript | .starred .. => .starred
  | .constant .. => .constant | .tuple .. => .tuple | .list .. => .list | .setOf .. => .setOf
  | .dict .. => .dict | .binary .. => .binary | .boolean .. => .boolean | .unary .. => .unary
  | .compare .. => .compare | .conditional .. => .conditional | .lambda .. => .lambda
  | .walrus .. => .walrus | .call .. => .call | .awaited .. => .awaited | .yielded .. => .yielded
  | .yieldFrom .. => .yieldFrom | .listComp .. => .listComp | .setComp .. => .setComp
  | .dictComp .. => .dictComp | .generator .. => .generator | .joined .. => .joined
  | .formatted .. => .formatted | .slice .. => .slice | .file .. => .file
  | .functionDef .plain .. => .functionDef | .functionDef .async .. => .asyncFunctionDef
  | .classDef .. => .classDef | .returned .. => .returned | .delete .. => .delete
  | .assign .. => .assign | .augAssign .. => .augAssign | .annAssign .. => .annAssign
  | .forLoop .plain .. => .forLoop | .forLoop .async .. => .asyncForLoop
  | .whileLoop .. => .whileLoop | .branch .. => .branch | .withBlock .plain .. => .withBlock
  | .withBlock .async .. => .asyncWithBlock | .raised .. => .raised | .tryBlock .. => .tryBlock
  | .tryGroup .. => .tryGroup | .assertion .. => .assertion | .imported .. => .imported
  | .importedFrom .. => .importedFrom | .global .. => .global | .nonlocal .. => .nonlocal
  | .expression .. => .expression | .passed => .passed | .broken => .broken
  | .continued => .continued | .matched .. => .matched | .handler .. => .handler
  | .params .. => .params | .param .. => .param | .keyword .. => .keyword
  | .importedName .. => .importedName
  | .withItem .. => .withItem | .comprehension .. => .comprehension | .matchCase .. => .matchCase
  | .matchValue .. => .matchValue | .matchSingleton .. => .matchSingleton
  | .matchSequence .. => .matchSequence | .matchMapping .. => .matchMapping
  | .matchClass .. => .matchClass | .matchStar .. => .matchStar | .matchAs .. => .matchAs
  | .matchOr .. => .matchOr

namespace Node

/-- The kind of a node. -/
def kind (n : Node) : Kind :=
  n.shape.kind

/-- The node is of one of the given kinds. -/
def isAny (n : Node) (kinds : List Kind) : Bool :=
  kinds.contains n.kind

/-- The constant at the node, if one stands there. -/
def literal? (n : Node) : Option Literal :=
  match n.shape with
  | .constant value _ => some value
  | _ => none

/-- The identifier, if the node is a plain name. -/
def name? (n : Node) : Option String :=
  match n.shape with
  | .name id _ => some id
  | _ => none

theorem kind_eq_name_iff {n : Node} : n.kind = .name ↔ n.name?.isSome = true := by
  constructor
  · intro hn
    obtain ⟨id, position, shape⟩ := n
    rw [kind, Node.shape] at hn
    cases shape with
    | name => rfl
    | functionDef mode | forLoop mode | withBlock mode => cases mode <;> cases hn
    | _ => cases hn
  · intro hn
    rw [name?] at hn
    split at hn
    case h_1 hshape => rw [kind, hshape]; rfl
    case h_2 => cases hn

/-- A function definition, asynchronous or not. -/
def isFunction (n : Node) : Bool :=
  n.isAny [.functionDef, .asyncFunctionDef]

/-- A loop over the items of a value, asynchronous or not. -/
def isFor (n : Node) : Bool :=
  n.isAny [.forLoop, .asyncForLoop]

/-- A loop of any kind. -/
def isLoop (n : Node) : Bool :=
  n.isFor || n.kind == .whileLoop

/-- An assignment with or without an annotation. -/
def isAssignment (n : Node) : Bool :=
  n.isAny [.assign, .annAssign]

/-- A number. -/
def isNumber (n : Node) : Bool :=
  n.literal?.any Literal.isNumber

/-- A text. -/
def isText (n : Node) : Bool :=
  n.literal?.any Literal.isText

/-- A byte string. -/
def isBytes (n : Node) : Bool :=
  n.literal?.any Literal.isBytes

/-- One of the named constants. -/
def isNamedConstant (n : Node) : Bool :=
  n.literal?.any Literal.isNamed

/-- The ellipsis. -/
def isEllipsis (n : Node) : Bool :=
  n.literal?.any Literal.isEllipsis

/-- A node that opens a context: the module, a class or a function. -/
def isContext (n : Node) : Bool :=
  n.isAny [.file, .classDef, .functionDef, .asyncFunctionDef]

end Node

namespace Site

/-- The contexts around a site, the nearest first. -/
def contexts (s : Site) : List Node :=
  s.above.filter Node.isContext

/-- The context to which a site belongs: the nearest module, class or function around it. -/
def context? (s : Site) : Option Node :=
  s.closest? Node.isContext

/-- The parent is of one of the given kinds. -/
def parentIsAny (s : Site) (kinds : List Kind) : Bool :=
  s.parent?.any fun p => p.node.isAny kinds

/-- The context is of one of the given kinds. -/
def contextIsAny (s : Site) (kinds : List Kind) : Bool :=
  s.context?.any fun c => c.isAny kinds

end Site

/-! ### Classes -/

/-- A class of syntax that a search can ask for: one kind of nodes, a family of kinds, one kind of
constants, one attachment or all of one sort, or anything at all. -/
inductive SyntaxClass where
  | node (kind : Kind)
  | family (family : Family)
  | number | text | bytes | namedConstant | ellipsis
  | attachment (part : Attachment)
  | anyUsage | anyBoolean | anyBinary | anyUnary | anyCompare
  | anything
  deriving DecidableEq

/-- The usages and operators that hang on a node. -/
def Node.attachments (n : Node) : List Attachment :=
  n.shape.pieces.filterMap Sum.getRight?

/-- The attachment belongs to the class. -/
def Attachment.belongsTo (part : Attachment) : SyntaxClass → Bool
  | .attachment other => part == other
  | .anyUsage => (part matches .usage _)
  | .anyBoolean => (part matches .boolean _)
  | .anyBinary => (part matches .binary _)
  | .anyUnary => (part matches .unary _)
  | .anyCompare => (part matches .compare _)
  | .anything => true
  | _ => false

/-- The node itself belongs to the class. -/
def Node.belongsTo (n : Node) : SyntaxClass → Bool
  | .node kind => n.kind == kind
  | .family family => n.kind.family == family
  | .number => n.isNumber
  | .text => n.isText
  | .bytes => n.isBytes
  | .namedConstant => n.isNamedConstant
  | .ellipsis => n.isEllipsis
  | .anything => true
  | _ => false

/-- The node belongs to one of the classes. -/
def Node.belongsToAny (n : Node) (classes : List SyntaxClass) : Bool :=
  classes.any n.belongsTo

/-- Something of one of the classes stands at the node or below it. -/
def Node.contains (n : Node) (classes : List SyntaxClass) : Bool :=
  n.walk.any fun m =>
    m.belongsToAny classes || m.attachments.any fun part => classes.any part.belongsTo

/-- A node of one of the kinds stands at the node or below it. -/
def Node.containsKind (n : Node) (kinds : List Kind) : Bool :=
  n.walk.any fun m => m.isAny kinds

/-- The sites at the given one and below it that belong to one of the classes, level by level. -/
def Site.subsites (s : Site) (classes : List SyntaxClass) : List Site :=
  s.walk.filter fun t => t.node.belongsToAny classes

end Stricture
