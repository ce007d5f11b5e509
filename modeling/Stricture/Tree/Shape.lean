import Stricture.Tree.Literal
import Stricture.Tree.Operator

/-!
# Shapes of syntax

`Shape α` is one layer of a syntax tree: what stands at a node, with a value of type `α` at each of
its children. A tree is a shape whose children are trees again (`Node`), so whatever concerns one
layer only, such as the order of the children, is said here once. Usages and operators are no
children: they are values of the layer itself, and `Shape.pieces` has them where they stand among
the children.

Trees may come from elsewhere than a parser, so little is taken for granted about them: lists may be
empty or differ in length, and a tree need not say what a name is used for, how a value is converted
or how far up an import reaches.
-/

namespace Stricture

/-- One layer of syntax. -/
inductive Shape (α : Type) where
  -- Expressions
  | name (id : String) (usage : Option Usage)
  | attr (value : α) (attr : String) (usage : Option Usage)
  | subscript (value index : α) (usage : Option Usage)
  | starred (value : α) (usage : Option Usage)
  | constant (value : Literal) (kind : Option String)
  | tuple (elements : List α) (usage : Option Usage)
  | list (elements : List α) (usage : Option Usage)
  | setOf (elements : List α)
  | dict (keys : List (Option α)) (values : List α)
  | binary (left : α) (op : BinaryOp) (right : α)
  | boolean (op : BooleanOp) (values : List α)
  | unary (op : UnaryOp) (operand : α)
  | compare (left : α) (ops : List CompareOp) (comparators : List α)
  | conditional (test body orelse : α)
  | lambda (params body : α)
  | walrus (target value : α)
  | call (func : α) (args keywords : List α)
  | awaited (value : α)
  | yielded (value : Option α)
  | yieldFrom (value : α)
  | listComp (element : α) (generators : List α)
  | setComp (element : α) (generators : List α)
  | dictComp (key value : α) (generators : List α)
  | generator (element : α) (generators : List α)
  | joined (parts : List α)
  | formatted (value : α) (conversion : Option Int) (spec : Option α)
  | slice (lower upper step : Option α)
  -- Statements
  | file (body : List α)
  | functionDef (mode : Mode) (name : String) (params : α) (body decorators : List α)
      (returns : Option α)
  | classDef (name : String) (bases keywords body decorators : List α)
  | returned (value : Option α)
  | delete (targets : List α)
  | assign (targets : List α) (value : α)
  | augAssign (target : α) (op : BinaryOp) (value : α)
  | annAssign (target hint : α) (value : Option α)
  | forLoop (mode : Mode) (target iter : α) (body orelse : List α)
  | whileLoop (test : α) (body orelse : List α)
  | branch (test : α) (body orelse : List α)
  | withBlock (mode : Mode) (items body : List α)
  | raised (error cause : Option α)
  | tryBlock (body handlers orelse final : List α)
  | tryGroup (body handlers orelse final : List α)
  | assertion (test : α) (message : Option α)
  | imported (names : List α)
  | importedFrom (source : Option String) (names : List α) (level : Option Int)
  | global (names : List String)
  | nonlocal (names : List String)
  | expression (value : α)
  | passed
  | broken
  | continued
  | matched (subject : α) (cases : List α)
  -- Parts of expressions and statements
  | handler (type : Option α) (name : Option String) (body : List α)
  | params (positionalOnly positional : List α) (variadic : Option α) (keywordOnly : List α)
      (keywordDefaults : List (Option α)) (variadicKeyword : Option α) (defaults : List α)
  | param (name : String) (hint : Option α)
  | keyword (name : Option String) (value : α)
  | importedName (name : String) (asName : Option String)
  | withItem (manager : α) (target : Option α)
  | comprehension (target iter : α) (conditions : List α) (mode : Mode)
  | matchCase (pattern : α) (guard : Option α) (body : List α)
  -- Patterns
  | matchValue (value : α)
  | matchSingleton (value : Literal)
  | matchSequence (patterns : List α)
  | matchMapping (keys patterns : List α) (rest : Option String)
  | matchClass (cls : α) (patterns : List α) (names : List String) (named : List α)
  | matchStar (name : Option String)
  | matchAs (pattern : Option α) (name : Option String)
  | matchOr (patterns : List α)

namespace Shape

/-- The children in reading order. All keys of a dictionary come before all its values, and the
decorators of a definition come after its body. -/
def children {α : Type} : Shape α → List α
  | name .. | constant .. | global .. | nonlocal .. | passed | broken | continued | importedName ..
  | matchSingleton .. | matchStar .. => []
  | attr value .. | starred value _ | awaited value | yieldFrom value | expression value
  | keyword _ value | matchValue value => [value]
  | subscript value index _ => [value, index]
  | tuple elements _ | list elements _ | setOf elements => elements
  | dict keys values => keys.filterMap id ++ values
  | binary left _ right => [left, right]
  | boolean _ values => values
  | unary _ operand => [operand]
  | compare left _ comparators => left :: comparators
  | conditional test body orelse => [test, body, orelse]
  | lambda parameters body => [parameters, body]
  | walrus target value => [target, value]
  | call func args keywords => func :: (args ++ keywords)
  | yielded value | returned value => value.toList
  | listComp element generators | setComp element generators | generator element generators =>
    element :: generators
  | dictComp key value generators => key :: value :: generators
  | joined parts => parts
  | formatted value _ spec => value :: spec.toList
  | slice lower upper step => lower.toList ++ upper.toList ++ step.toList
  | file body => body
  | functionDef _ _ parameters body decorators returns =>
    parameters :: (body ++ decorators ++ returns.toList)
  | classDef _ bases keywords body decorators => bases ++ keywords ++ body ++ decorators
  | delete targets => targets
  | assign targets value => targets ++ [value]
  | augAssign target _ value => [target, value]
  | annAssign target hint value => target :: hint :: value.toList
  | forLoop _ target iter body orelse => target :: iter :: (body ++ orelse)
  | whileLoop test body orelse | branch test body orelse => test :: (body ++ orelse)
  | withBlock _ items body => items ++ body
  | raised error cause => error.toList ++ cause.toList
  | tryBlock body handlers orelse final | tryGroup body handlers orelse final =>
    body ++ handlers ++ orelse ++ final
  | assertion test message => test :: message.toList
  | imported names | importedFrom _ names _ => names
  | matched subject cases => subject :: cases
  | handler type _ body => type.toList ++ body
  | params positionalOnly positional variadic keywordOnly keywordDefaults variadicKeyword
      defaults =>
    positionalOnly ++ positional ++ variadic.toList ++ keywordOnly ++ keywordDefaults.filterMap id
      ++ variadicKeyword.toList ++ defaults
  | param _ hint => hint.toList
  | withItem manager target => manager :: target.toList
  | comprehension target iter conditions _ => target :: iter :: conditions
  | matchCase pattern guard body => pattern :: (guard.toList ++ body)
  | matchSequence patterns | matchOr patterns => patterns
  | matchMapping keys patterns _ => keys ++ patterns
  | matchClass cls patterns _ named => cls :: (patterns ++ named)
  | matchAs pattern _ => pattern.toList

/-- All that a layer holds, in reading order: the children, with usages and operators among them. -/
def pieces {α : Type} : Shape α → List (α ⊕ Attachment)
  | name _ usage => usage.toList.map fun u => .inr (.usage u)
  | attr value _ usage | starred value usage =>
    .inl value :: usage.toList.map fun u => .inr (.usage u)
  | subscript value index usage =>
    .inl value :: .inl index :: usage.toList.map fun u => .inr (.usage u)
  | tuple elements usage | list elements usage =>
    elements.map .inl ++ usage.toList.map fun u => .inr (.usage u)
  | binary left op right | augAssign left op right => [.inl left, .inr (.binary op), .inl right]
  | boolean op values => .inr (.boolean op) :: values.map .inl
  | unary op operand => [.inr (.unary op), .inl operand]
  | compare left ops comparators =>
    .inl left :: (ops.map (fun op => .inr (.compare op)) ++ comparators.map .inl)
  | s => s.children.map .inl

/-- The children are what remains without usages and operators. -/
theorem filterMap_getLeft?_pieces {α : Type} (s : Shape α) :
    s.pieces.filterMap Sum.getLeft? = s.children := by
  cases s <;>
    simp [pieces, children, List.filterMap_cons, List.filterMap_append, Function.comp_def]

end Shape

end Stricture
