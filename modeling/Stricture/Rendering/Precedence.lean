import Stricture.Tree.Kind

/-!
# Precedences and slots

The greater a precedence, the tighter an expression binds. Every child of an expression stands in a
slot, which has a precedence too, and needs brackets in a slot that is tighter than itself.

Not every child is written: a dictionary stops at the end of the shorter one of its two lists, and
so do the operators of a comparison and the defaults of parameters.
-/

namespace Stricture

namespace Precedence

def generator : Nat := 1
def yielded : Nat := 7
def index : Nat := 13
def tuple : Nat := 19
def comma : Nat := 21
def named : Nat := 23
def onlyArgument : Nat := 25
def conditional : Nat := 27
def clause : Nat := 29
def comparison : Nat := 37
def exponent : Nat := 51
def awaited : Nat := 57
def number : Nat := 61

/-- The slot of a node whose parent was not rendered. -/
def tightest : Nat := 63

/-- The precedence of a joined condition. -/
def ofBoolean : BooleanOp → Nat
  | .or => 31
  | .and => 33

/-- The precedence of a prefixed expression. -/
def ofUnary : UnaryOp → Nat
  | .not => 35
  | .invert | .plus | .minus => 53

/-- The precedence of an operation. -/
def ofBinary : BinaryOp → Nat
  | .bitOr => 39
  | .bitXor => 41
  | .bitAnd => 43
  | .leftShift | .rightShift => 45
  | .add | .sub => 47
  | .mult | .div | .mod | .floorDiv | .matMult => 49
  | .pow => 55

/-- The slot of the left operand. -/
def leftOperand (op : BinaryOp) : Nat :=
  if op = .pow then ofBinary op + 1 else ofBinary op

/-- The slot of the right operand. A power binds to the right. -/
def rightOperand (op : BinaryOp) : Nat :=
  if op = .pow then exponent else ofBinary op + 1

/-- The slot of a positional argument. -/
def argument (args keywords : List Node) : Nat :=
  if args.length + keywords.length ≤ 1 then onlyArgument else comma

end Precedence

/-- How many of the defaults are written at the positional-only parameters. The others are written
at the positional ones. -/
def frontDefaults (positionalOnly positional defaults : Nat) : Nat :=
  if positionalOnly = 0 then 0
  else if defaults < positional then 2 * defaults - positional
  else defaults - positional

namespace Node

/-- The slot that a parent gives to one of its children once it was rendered. -/
def slot (parent child : Node) : Nat :=
  match parent.shape with
  | .call _ args keywords =>
    if args.any child.is then Precedence.argument args keywords else Precedence.tightest
  | .keyword .. | .tuple .. | .list .. | .setOf .. => Precedence.comma
  | .dict _ values => if values.any child.is then Precedence.comma else Precedence.tightest
  | .binary left op _ =>
    if child.is left then Precedence.leftOperand op else Precedence.rightOperand op
  | .boolean op _ => Precedence.ofBoolean op + 1
  | .compare .. => Precedence.comparison + 1
  | .unary op _ => Precedence.ofUnary op
  | .walrus target _ => if child.is target then Precedence.named else Precedence.named + 1
  | .conditional _ _ orelse =>
    if child.is orelse then Precedence.conditional else Precedence.conditional + 1
  | .lambda _ body => if child.is body then Precedence.conditional else Precedence.tightest
  | .params _ _ _ keywordOnly keywordDefaults _ defaults =>
    let written := if keywordOnly.isEmpty then [] else keywordDefaults.filterMap fun o => o
    if (written ++ defaults).any child.is then Precedence.comma else Precedence.tightest
  | .yielded _ => Precedence.yielded + 1
  | .subscript _ index _ => if child.is index then Precedence.index else Precedence.tightest
  | .slice .. => Precedence.index
  | .generator element _ => if child.is element then Precedence.comma else Precedence.tightest
  | .comprehension target _ _ _ =>
    if child.is target then Precedence.tuple else Precedence.clause
  | .formatted value _ _ => if child.is value then Precedence.tuple else Precedence.tightest
  | .assertion .. => Precedence.named
  | _ => Precedence.tightest

/-- The defaults of parameters that find no parameter to stand at. -/
def idleDefaults (n : Node) : List Node :=
  match n.shape with
  | .params positionalOnly positional _ keywordOnly keywordDefaults _ defaults =>
    let cut := frontDefaults positionalOnly.length positional.length defaults.length
    (defaults.take cut).drop positionalOnly.length ++ (defaults.drop cut).drop positional.length
      ++ (keywordDefaults.drop keywordOnly.length).filterMap fun o => o
  | _ => []

/-- The child is written where its parent is. -/
def shows (parent child : Node) : Bool :=
  match parent.shape with
  | .dict keys values =>
    (keys.zip values).any fun (key, value) => key.any child.is || child.is value
  | .compare left ops comparators => (left :: comparators.take ops.length).any child.is
  | _ => !parent.idleDefaults.any child.is

end Node

end Stricture
