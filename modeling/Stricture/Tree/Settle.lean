import Stricture.Tree.Kind

/-!
# Settled positions

Two kinds of positions are corrected before any rule looks at a tree. The column of an asynchronous
statement may point past the word `async`, and the line of a tuple may be that of its first element
instead of its opening bracket.

`Node.reposition` gives every node a new position that depends on the node and on the new position
of its parent; nothing else of the tree changes.
-/

namespace Stricture

mutual

/-- Moves every node, parents first. `place` gets the new position of the parent and the node. -/
def Node.reposition (place : Option Position → Node → Option Position) (parent : Option Position) :
    Node → Node
  | .mk id position shape =>
    let moved := place parent (.mk id position shape)
    .mk id moved (shapeReposition place moved shape)

/-- Moves the children of a shape. -/
def shapeReposition (place : Option Position → Node → Option Position) (parent : Option Position) :
    Shape Node → Shape Node
  | .name id usage => .name id usage
  | .attr value attr usage => .attr (value.reposition place parent) attr usage
  | .subscript value index usage =>
    .subscript (value.reposition place parent) (index.reposition place parent) usage
  | .starred value usage => .starred (value.reposition place parent) usage
  | .constant value kind => .constant value kind
  | .tuple elements usage => .tuple (listReposition place parent elements) usage
  | .list elements usage => .list (listReposition place parent elements) usage
  | .setOf elements => .setOf (listReposition place parent elements)
  | .dict keys values =>
    .dict (keyReposition place parent keys) (listReposition place parent values)
  | .binary left op right =>
    .binary (left.reposition place parent) op (right.reposition place parent)
  | .boolean op values => .boolean op (listReposition place parent values)
  | .unary op operand => .unary op (operand.reposition place parent)
  | .compare left ops comparators =>
    .compare (left.reposition place parent) ops (listReposition place parent comparators)
  | .conditional test body orelse =>
    .conditional (test.reposition place parent) (body.reposition place parent)
      (orelse.reposition place parent)
  | .lambda parameters body =>
    .lambda (parameters.reposition place parent) (body.reposition place parent)
  | .walrus target value =>
    .walrus (target.reposition place parent) (value.reposition place parent)
  | .call func args keywords =>
    .call (func.reposition place parent) (listReposition place parent args)
      (listReposition place parent keywords)
  | .awaited value => .awaited (value.reposition place parent)
  | .yielded value => .yielded (optionReposition place parent value)
  | .yieldFrom value => .yieldFrom (value.reposition place parent)
  | .listComp element generators =>
    .listComp (element.reposition place parent) (listReposition place parent generators)
  | .setComp element generators =>
    .setComp (element.reposition place parent) (listReposition place parent generators)
  | .dictComp key value generators =>
    .dictComp (key.reposition place parent) (value.reposition place parent)
      (listReposition place parent generators)
  | .generator element generators =>
    .generator (element.reposition place parent) (listReposition place parent generators)
  | .joined parts => .joined (listReposition place parent parts)
  | .formatted value conversion spec =>
    .formatted (value.reposition place parent) conversion (optionReposition place parent spec)
  | .slice lower upper step =>
    .slice (optionReposition place parent lower) (optionReposition place parent upper)
      (optionReposition place parent step)
  | .file body => .file (listReposition place parent body)
  | .functionDef mode name parameters body decorators returns =>
    .functionDef mode name (parameters.reposition place parent) (listReposition place parent body)
      (listReposition place parent decorators) (optionReposition place parent returns)
  | .classDef name bases keywords body decorators =>
    .classDef name (listReposition place parent bases) (listReposition place parent keywords)
      (listReposition place parent body) (listReposition place parent decorators)
  | .returned value => .returned (optionReposition place parent value)
  | .delete targets => .delete (listReposition place parent targets)
  | .assign targets value =>
    .assign (listReposition place parent targets) (value.reposition place parent)
  | .augAssign target op value =>
    .augAssign (target.reposition place parent) op (value.reposition place parent)
  | .annAssign target hint value =>
    .annAssign (target.reposition place parent) (hint.reposition place parent)
      (optionReposition place parent value)
  | .forLoop mode target iter body orelse =>
    .forLoop mode (target.reposition place parent) (iter.reposition place parent)
      (listReposition place parent body) (listReposition place parent orelse)
  | .whileLoop test body orelse =>
    .whileLoop (test.reposition place parent) (listReposition place parent body)
      (listReposition place parent orelse)
  | .branch test body orelse =>
    .branch (test.reposition place parent) (listReposition place parent body)
      (listReposition place parent orelse)
  | .withBlock mode items body =>
    .withBlock mode (listReposition place parent items) (listReposition place parent body)
  | .raised error cause =>
    .raised (optionReposition place parent error) (optionReposition place parent cause)
  | .tryBlock body handlers orelse final =>
    .tryBlock (listReposition place parent body) (listReposition place parent handlers)
      (listReposition place parent orelse) (listReposition place parent final)
  | .tryGroup body handlers orelse final =>
    .tryGroup (listReposition place parent body) (listReposition place parent handlers)
      (listReposition place parent orelse) (listReposition place parent final)
  | .assertion test message =>
    .assertion (test.reposition place parent) (optionReposition place parent message)
  | .imported names => .imported (listReposition place parent names)
  | .importedFrom source names level =>
    .importedFrom source (listReposition place parent names) level
  | .global names => .global names
  | .nonlocal names => .nonlocal names
  | .expression value => .expression (value.reposition place parent)
  | .passed => .passed
  | .broken => .broken
  | .continued => .continued
  | .matched subject cases =>
    .matched (subject.reposition place parent) (listReposition place parent cases)
  | .handler type name body =>
    .handler (optionReposition place parent type) name (listReposition place parent body)
  | .params positionalOnly positional variadic keywordOnly keywordDefaults variadicKeyword
      defaults =>
    .params (listReposition place parent positionalOnly) (listReposition place parent positional)
      (optionReposition place parent variadic) (listReposition place parent keywordOnly)
      (keyReposition place parent keywordDefaults) (optionReposition place parent variadicKeyword)
      (listReposition place parent defaults)
  | .param name hint => .param name (optionReposition place parent hint)
  | .keyword name value => .keyword name (value.reposition place parent)
  | .importedName name asName => .importedName name asName
  | .withItem manager target =>
    .withItem (manager.reposition place parent) (optionReposition place parent target)
  | .comprehension target iter conditions mode =>
    .comprehension (target.reposition place parent) (iter.reposition place parent)
      (listReposition place parent conditions) mode
  | .matchCase pattern guard body =>
    .matchCase (pattern.reposition place parent) (optionReposition place parent guard)
      (listReposition place parent body)
  | .matchValue value => .matchValue (value.reposition place parent)
  | .matchSingleton value => .matchSingleton value
  | .matchSequence patterns => .matchSequence (listReposition place parent patterns)
  | .matchMapping keys patterns rest =>
    .matchMapping (listReposition place parent keys) (listReposition place parent patterns) rest
  | .matchClass cls patterns names named =>
    .matchClass (cls.reposition place parent) (listReposition place parent patterns) names
      (listReposition place parent named)
  | .matchStar name => .matchStar name
  | .matchAs pattern name => .matchAs (optionReposition place parent pattern) name
  | .matchOr patterns => .matchOr (listReposition place parent patterns)

/-- Moves the nodes of a list. -/
def listReposition (place : Option Position → Node → Option Position) (parent : Option Position) :
    List Node → List Node
  | [] => []
  | n :: rest => n.reposition place parent :: listReposition place parent rest

/-- Moves a node that may be missing. -/
def optionReposition (place : Option Position → Node → Option Position)
    (parent : Option Position) : Option Node → Option Node
  | none => none
  | some n => some (n.reposition place parent)

/-- Moves the nodes that are not missing from a list. -/
def keyReposition (place : Option Position → Node → Option Position) (parent : Option Position) :
    List (Option Node) → List (Option Node)
  | [] => []
  | none :: rest => none :: keyReposition place parent rest
  | some n :: rest => some (n.reposition place parent) :: keyReposition place parent rest

end

/-! ### The two corrections -/

/-- An asynchronous statement. -/
def Node.isAsync (n : Node) : Bool :=
  n.isAny [.asyncForLoop, .asyncWithBlock, .asyncFunctionDef]

/-- An asynchronous statement that does not start at a multiple of four columns starts six columns
further left, where its word `async` begins. -/
def asyncPosition (_parent : Option Position) (n : Node) : Option Position :=
  n.position.map fun p =>
    if n.isAsync ∧ p.column % 4 ≠ 0 then
      { p with column := p.column - 6 }
    else p

/-- A tuple that starts on a later line than its parent starts one line earlier. -/
def tuplePosition (parent : Option Position) (n : Node) : Option Position :=
  n.position.map fun p =>
    match parent with
    | some q =>
      if n.kind = .tuple ∧ q.line ≠ 0 ∧ q.line < p.line then { p with line := p.line - 1 } else p
    | none => p

/-- The tree with the columns of asynchronous statements corrected. -/
def Node.settleColumns (root : Node) : Node :=
  root.reposition asyncPosition none

/-- The tree with the lines of tuples corrected. -/
def Node.settleLines (root : Node) : Node :=
  root.reposition tuplePosition none

/-- The tree with all positions corrected. -/
def Node.settle (root : Node) : Node :=
  root.settleColumns.settleLines

end Stricture
