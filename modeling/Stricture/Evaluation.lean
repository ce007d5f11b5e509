import Stricture.Tree.Kind
import Stricture.Value

/-!
# Constant expressions

Two evaluators of constant expressions. `Node.literalValue` knows literals only: constants, tuples,
lists, sets and dictionaries of literals, signed numbers, and sums of a real and an imaginary
number. `Node.namedValue` also takes a name for a constant, with its own identifier as the value,
so that two uses of one name are seen to be equal.
-/

namespace Stricture

/-- Why an expression has no constant value. -/
inductive EvaluationError where
  /-- The expression is not built from constants. -/
  | notConstant
  /-- A set member or a dictionary key is a container that cannot be one. -/
  | notKey
  /-- A sign in front of a name. -/
  | signedName
  /-- A whole number too large for the sum with an imaginary one. -/
  | tooLarge
  deriving DecidableEq

namespace Evaluation

open Value (ofLiteral)

/-- The result of evaluating one expression. -/
abbrev Result := Except EvaluationError Value

/-! ### Containers

The parts of a container are evaluated one after the other, and a set or dictionary takes each
member or entry before the next one is evaluated. The first failure in that order is the result. -/

/-- All values, or the first failure. -/
def collect : List Result → Except EvaluationError (List Value)
  | [] => .ok []
  | .error e :: _ => .error e
  | .ok v :: rest => (collect rest).map (v :: ·)

/-- The members of a set, added one by one. -/
def collectSet (members : List Value) : List Result → Except EvaluationError (List Value)
  | [] => .ok members
  | .error e :: _ => .error e
  | .ok v :: rest =>
    if v.isKey then collectSet (Value.addMember members v) rest else .error .notKey

/-- The entries of a dictionary, added one by one: first the key of an entry is evaluated, then its
value, then it is added. -/
def collectDict (entries : List (Value × Value)) :
    List Result → List Result → Except EvaluationError (List (Value × Value))
  | [], _ => .ok entries
  | .error e :: _, _ => .error e
  | .ok _ :: _, [] => .ok entries
  | .ok _ :: _, .error e :: _ => .error e
  | .ok k :: keys, .ok v :: values =>
    if k.isKey then collectDict (Value.addEntry entries k v) keys values else .error .notKey

/-! ### Signed and complex numbers -/

/-- A number with a sign; a truth value counts as a number. -/
def applySign (op : UnaryOp) : Value → Result
  | .bool b => .ok (.int (if op = .minus then (if b then -1 else 0) else (if b then 1 else 0)))
  | .int n => .ok (.int (if op = .minus then -n else n))
  | .float x => .ok (.float (if op = .minus then x.neg else x))
  | .complex x y => .ok (if op = .minus then .complex x.neg y.neg else .complex x y)
  | .text _ => .error .signedName
  | _ => .error .notConstant

/-- The operator is a sign. -/
def isSign (op : UnaryOp) : Bool :=
  op == .plus || op == .minus

/-- The real part of a sum, as a double. -/
def realPart : Value → Option (Except EvaluationError Double)
  | .bool b => some (.ok (if b then .finite false 1 0 else .finite false 0 0))
  | .int n =>
    some (match Double.ofInt? n with
      | some x => .ok x
      | none => .error .tooLarge)
  | .float x => some (.ok x)
  | _ => none

/-- The sum of a real and an imaginary number, or their difference. Other sums have no constant
value. Each part is the sum or difference of two parts, one of them a positive zero: a negative zero
is lost in a sum, and so is the sign of the imaginary zero in a difference. -/
def addImaginary (op : BinaryOp) (left right : Value) : Result :=
  match realPart left, right with
  | some (.error e), .complex _ _ => .error e
  | some (.ok x), .complex _ y =>
    if op = .add then .ok (.complex x.plusZero y.plusZero)
    else .ok (.complex x y.neg.plusZero)
  | _, _ => .error .notConstant

/-! ### Literals only -/

/-- A number without a sign; a truth value is no number. -/
def plainNumber (n : Node) : Result :=
  match n.literal? with
  | some literal => if literal.isNumber then .ok (ofLiteral literal) else .error .notConstant
  | none => .error .notConstant

/-- A number with or without a sign. -/
def signedNumber (n : Node) : Result :=
  match n.shape with
  | .unary op operand =>
    if isSign op then (plainNumber operand).bind (applySign op) else .error .notConstant
  | _ => plainNumber n

/-- A sum or difference of two numbers. -/
def complexNumber (left : Node) (op : BinaryOp) (right : Node) : Result :=
  if op = .add ∨ op = .sub then
    (signedNumber left).bind fun x => (plainNumber right).bind fun y => addImaginary op x y
  else .error .notConstant

/-- The call of the set constructor without arguments. -/
def isEmptySetCall (func : Node) (args keywords : List Node) : Bool :=
  func.name? == some "set" && args.isEmpty && keywords.isEmpty

/-! ### Names as constants -/

/-- A number without a sign, or a name; a truth value counts as a number. -/
def plainOperand (n : Node) : Result :=
  match n.shape with
  | .constant (.bool b) _ => .ok (.bool b)
  | .constant literal _ => if literal.isNumber then .ok (ofLiteral literal) else .error .notConstant
  | .name id _ => .ok (.text id)
  | _ => .error .notConstant

/-- A number or a name with or without a sign. A sign cannot stand before a name. -/
def signedOperand (n : Node) : Result :=
  match n.shape with
  | .unary op operand =>
    if isSign op then (plainOperand operand).bind (applySign op) else .error .notConstant
  | _ => plainOperand n

/-- A sum or difference of two operands. -/
def complexOperand (left : Node) (op : BinaryOp) (right : Node) : Result :=
  if op = .add ∨ op = .sub then
    (signedOperand left).bind fun x => (plainOperand right).bind fun y => addImaginary op x y
  else .error .notConstant

end Evaluation

open Evaluation

mutual

/-- The value of an expression built from literals. -/
def Node.literalValue : Node → Evaluation.Result
  | .mk _ _ (.constant value _) => .ok (.ofLiteral value)
  | .mk _ _ (.tuple elements _) => (collect (literalValues elements)).map .tuple
  | .mk _ _ (.list elements _) => (collect (literalValues elements)).map .list
  | .mk _ _ (.setOf elements) => (collectSet [] (literalValues elements)).map .setOf
  | .mk _ _ (.dict keys values) =>
    if keys.length = values.length then
      (collectDict [] (literalKeys keys) (literalValues values)).map .dict
    else .error .notConstant
  | .mk _ _ (.call func args keywords) =>
    if isEmptySetCall func args keywords then .ok (.setOf []) else .error .notConstant
  | .mk _ _ (.binary left op right) => complexNumber left op right
  | n => signedNumber n

/-- The values of several expressions. -/
def literalValues : List Node → List Evaluation.Result
  | [] => []
  | n :: rest => n.literalValue :: literalValues rest

/-- The values of the keys of a dictionary; a missing key is not constant. -/
def literalKeys : List (Option Node) → List Evaluation.Result
  | [] => []
  | none :: rest => .error .notConstant :: literalKeys rest
  | some n :: rest => n.literalValue :: literalKeys rest

end

mutual

/-- The value of an expression built from literals and names. -/
def Node.namedValue : Node → Evaluation.Result
  | .mk _ _ (.constant value _) => .ok (.ofLiteral value)
  | .mk _ _ (.tuple elements _) => (collect (namedValues elements)).map .tuple
  | .mk _ _ (.list elements _) => (collect (namedValues elements)).map .list
  | .mk _ _ (.setOf elements) => (collectSet [] (namedValues elements)).map .setOf
  | .mk _ _ (.dict keys values) =>
    (collectDict [] (namedKeys keys) (namedValues values)).map .dict
  | .mk _ _ (.binary left op right) => complexOperand left op right
  | n => signedOperand n

/-- The values of several expressions. -/
def namedValues : List Node → List Evaluation.Result
  | [] => []
  | n :: rest => n.namedValue :: namedValues rest

/-- The values of the keys of a dictionary; a missing key is not constant. -/
def namedKeys : List (Option Node) → List Evaluation.Result
  | [] => []
  | none :: rest => .error .notConstant :: namedKeys rest
  | some n :: rest => n.namedValue :: namedKeys rest

end

/-- The expression is built from literals only. Whether it has a value at all is a different
question: a set of lists has none, and then neither answer fits. -/
def Node.isLiteral (n : Node) : Except EvaluationError Bool :=
  match n.literalValue with
  | .ok _ => .ok true
  | .error .notConstant => .ok false
  | .error e => .error e

end Stricture
