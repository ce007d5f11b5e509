import Stricture.Tree.Shape

/-!
# Syntax trees

A node is a shape of nodes with a position in the text and an identity of its own. Two nodes that
look alike are still two nodes, so rules that ask for "this very node" compare identities.
-/

namespace Stricture

/-- A place in the text of a program. -/
structure Position where
  line : Int
  column : Int
  deriving DecidableEq

/-- A syntax tree. Some nodes, such as the list of the parameters of a function, have no position
of their own. -/
inductive Node where
  | mk (id : Nat) (position : Option Position) (shape : Shape Node)

namespace Node

/-- What tells the node from every other node of its tree. -/
def id : Node → Nat
  | mk id _ _ => id

/-- Where the node starts in the text. -/
def position : Node → Option Position
  | mk _ position _ => position

/-- What stands at the node. -/
def shape : Node → Shape Node
  | mk _ _ shape => shape

/-- The children in reading order. -/
def children (n : Node) : List Node :=
  n.shape.children

/-- The line on which the node starts. -/
def line? (n : Node) : Option Int :=
  n.position.map Position.line

/-- The same node: the same identity. -/
def is (m n : Node) : Bool :=
  m.id == n.id

end Node

/-! ### Outlines

The outline of a tree forgets everything about a node except which nodes stand below it. Walking a
tree, in either order, is done on its outline. -/

/-- A node with the outlines of its children. -/
inductive Outline where
  | mk (node : Node) (branches : List Outline)

namespace Outline

/-- The node on top. -/
def node : Outline → Node
  | mk node _ => node

/-- The outlines of the children. -/
def branches : Outline → List Outline
  | mk _ branches => branches

end Outline

mutual

/-- The outline of a tree. -/
def Node.outline : Node → Outline
  | .mk id position shape => .mk (.mk id position shape) (shapeOutlines shape)

/-- The outlines of the children of a shape, in reading order. -/
def shapeOutlines : Shape Node → List Outline
  | .name .. | .constant .. | .global .. | .nonlocal .. | .passed | .broken | .continued
  | .importedName .. | .matchSingleton .. | .matchStar .. => []
  | .attr value .. | .starred value _ | .awaited value | .yieldFrom value | .expression value
  | .keyword _ value | .matchValue value => [value.outline]
  | .subscript value index _ => [value.outline, index.outline]
  | .tuple elements _ | .list elements _ | .setOf elements => listOutlines elements
  | .dict keys values => keyOutlines keys ++ listOutlines values
  | .binary left _ right => [left.outline, right.outline]
  | .boolean _ values => listOutlines values
  | .unary _ operand => [operand.outline]
  | .compare left _ comparators => left.outline :: listOutlines comparators
  | .conditional test body orelse => [test.outline, body.outline, orelse.outline]
  | .lambda params body => [params.outline, body.outline]
  | .walrus target value => [target.outline, value.outline]
  | .call func args keywords => func.outline :: (listOutlines args ++ listOutlines keywords)
  | .yielded value | .returned value => optionOutlines value
  | .listComp element generators | .setComp element generators | .generator element generators =>
    element.outline :: listOutlines generators
  | .dictComp key value generators => key.outline :: value.outline :: listOutlines generators
  | .joined parts => listOutlines parts
  | .formatted value _ spec => value.outline :: optionOutlines spec
  | .slice lower upper step => optionOutlines lower ++ optionOutlines upper ++ optionOutlines step
  | .file body => listOutlines body
  | .functionDef _ _ params body decorators returns =>
    params.outline :: (listOutlines body ++ listOutlines decorators ++ optionOutlines returns)
  | .classDef _ bases keywords body decorators =>
    listOutlines bases ++ listOutlines keywords ++ listOutlines body ++ listOutlines decorators
  | .delete targets => listOutlines targets
  | .assign targets value => listOutlines targets ++ [value.outline]
  | .augAssign target _ value => [target.outline, value.outline]
  | .annAssign target hint value =>
    target.outline :: hint.outline :: optionOutlines value
  | .forLoop _ target iter body orelse =>
    target.outline :: iter.outline :: (listOutlines body ++ listOutlines orelse)
  | .whileLoop test body orelse | .branch test body orelse =>
    test.outline :: (listOutlines body ++ listOutlines orelse)
  | .withBlock _ items body => listOutlines items ++ listOutlines body
  | .raised error cause => optionOutlines error ++ optionOutlines cause
  | .tryBlock body handlers orelse final | .tryGroup body handlers orelse final =>
    listOutlines body ++ listOutlines handlers ++ listOutlines orelse ++ listOutlines final
  | .assertion test message => test.outline :: optionOutlines message
  | .imported names | .importedFrom _ names _ => listOutlines names
  | .matched subject cases => subject.outline :: listOutlines cases
  | .handler type _ body => optionOutlines type ++ listOutlines body
  | .params positionalOnly positional variadic keywordOnly keywordDefaults variadicKeyword
      defaults =>
    listOutlines positionalOnly ++ listOutlines positional ++ optionOutlines variadic
      ++ listOutlines keywordOnly ++ keyOutlines keywordDefaults ++ optionOutlines variadicKeyword
      ++ listOutlines defaults
  | .param _ hint => optionOutlines hint
  | .withItem manager target => manager.outline :: optionOutlines target
  | .comprehension target iter conditions _ =>
    target.outline :: iter.outline :: listOutlines conditions
  | .matchCase pattern guard body => pattern.outline :: (optionOutlines guard ++ listOutlines body)
  | .matchSequence patterns | .matchOr patterns => listOutlines patterns
  | .matchMapping keys patterns _ => listOutlines keys ++ listOutlines patterns
  | .matchClass cls patterns _ named => cls.outline :: (listOutlines patterns ++ listOutlines named)
  | .matchAs pattern _ => optionOutlines pattern

/-- The outlines of a list of nodes. -/
def listOutlines : List Node → List Outline
  | [] => []
  | n :: rest => n.outline :: listOutlines rest

/-- The outline of a node that may be missing. -/
def optionOutlines : Option Node → List Outline
  | none => []
  | some n => [n.outline]

/-- The outlines of the nodes that are not missing from a list. -/
def keyOutlines : List (Option Node) → List Outline
  | [] => []
  | none :: rest => keyOutlines rest
  | some n :: rest => n.outline :: keyOutlines rest

end

theorem listOutlines_eq_map (ns : List Node) : listOutlines ns = ns.map Node.outline := by
  induction ns with
  | nil => rw [listOutlines]; rfl
  | cons n rest ih => rw [listOutlines, ih]; rfl

theorem optionOutlines_eq_map (n : Option Node) :
    optionOutlines n = n.toList.map Node.outline := by
  cases n <;> rw [optionOutlines] <;> rfl

theorem keyOutlines_eq_map (ns : List (Option Node)) :
    keyOutlines ns = (ns.filterMap id).map Node.outline := by
  induction ns with
  | nil => rw [keyOutlines]; rfl
  | cons n rest ih => cases n <;> simp [keyOutlines, ih]

theorem shapeOutlines_eq_map (s : Shape Node) :
    shapeOutlines s = s.children.map Node.outline := by
  cases s <;>
    simp [shapeOutlines, Shape.children, listOutlines_eq_map, optionOutlines_eq_map,
      keyOutlines_eq_map]

@[simp]
theorem Node.outline_node (n : Node) : n.outline.node = n := by
  cases n; rw [Node.outline]; rfl

/-- Below a node stand its children. -/
theorem Node.outline_branches (n : Node) : n.outline.branches = n.children.map Node.outline := by
  cases n; rw [Node.outline, Outline.branches, shapeOutlines_eq_map]; rfl

end Stricture
