import Stricture.Tree.Block

/-!
# Signatures and calls

The parameters of a function, and whether a call passes all of them on as they came.
-/

namespace Stricture

/-- The parameters of a function. -/
structure Signature where
  isLambda : Bool
  positionalOnly : List Node
  positional : List Node
  variadic : Option Node
  keywordOnly : List Node
  keywordDefaults : List (Option Node)
  variadicKeyword : Option Node
  defaults : List Node

/-- The names that a method gives to the object or class that it belongs to. -/
def specialParameters : List String :=
  ["self", "cls", "mcs"]

namespace Node

/-- The name of a parameter. -/
def paramName (n : Node) : String :=
  match n.shape with
  | .param name _ => name
  | _ => ""

/-- The signature of a list of parameters. -/
def toSignature (isLambda : Bool) (parameters : Node) : Signature :=
  match parameters.shape with
  | .params positionalOnly positional variadic keywordOnly keywordDefaults variadicKeyword
      defaults =>
    ⟨isLambda, positionalOnly, positional, variadic, keywordOnly, keywordDefaults,
      variadicKeyword, defaults⟩
  | _ => ⟨isLambda, [], [], none, [], [], none, []⟩

/-- The signature of a function or a lambda. -/
def signature? (n : Node) : Option Signature :=
  match n.shape with
  | .functionDef _ _ parameters _ _ _ => some (toSignature false parameters)
  | .lambda parameters _ => some (toSignature true parameters)
  | _ => none

/-- The name that a definition gives to a function or class. -/
def definedName? (n : Node) : Option String :=
  match n.shape with
  | .functionDef _ name _ _ _ _ | .classDef name _ _ _ _ => some name
  | _ => none

/-- The function yields values. -/
def isGenerator (n : Node) : Bool :=
  n.body.any fun statement => statement.containsKind [.yielded, .yieldFrom]

end Node

namespace Signature

/-- All parameters in order, except for those that can only be given by position. -/
def all (g : Signature) : List Node :=
  g.positional ++ g.variadic.toList ++ g.keywordOnly ++ g.variadicKeyword.toList

/-- The first positional parameter has the given name. -/
def isFirst (g : Signature) (name : String) : Bool :=
  g.positional.head?.any fun p => p.paramName == name

/-- The positional parameters without the object or class of a method. -/
def withoutSpecial (g : Signature) : List Node :=
  match g.positional with
  | first :: rest =>
    if !g.isLambda && specialParameters.contains first.paramName then rest else first :: rest
  | [] => []

end Signature

/-! ### Calls that pass everything on -/

/-- A call, taken apart. -/
structure CallParts where
  func : Node
  args : List Node
  keywords : List Node

/-- The parts of a call. -/
def Node.call? (n : Node) : Option CallParts :=
  match n.shape with
  | .call func args keywords => some ⟨func, args, keywords⟩
  | _ => none

/-- The value behind a star. -/
def Node.starredValue? (n : Node) : Option Node :=
  match n.shape with
  | .starred value _ => some value
  | _ => none

/-- The name and value of a keyword argument. -/
def Node.keyword? (n : Node) : Option (Option String × Node) :=
  match n.shape with
  | .keyword name value => some (name, value)
  | _ => none

namespace CallParts

/-- The arguments with a star. -/
def starred (c : CallParts) : List Node :=
  c.args.filter fun a => a.starredValue?.isSome

/-- The keyword arguments, each with its name, if it has one, and its value. -/
def named (c : CallParts) : List (Option String × Node) :=
  c.keywords.filterMap Node.keyword?

/-- Spread values forward a parameter that collects arguments: all of them are names, the last one
is the name of the parameter and not empty, and there are none if there is no such parameter. -/
def forwards (parameter : Option Node) (spread : List Node) : Bool :=
  spread.all (fun v => v.name?.isSome) &&
    match parameter, spread.getLast?.bind Node.name? with
    | some p, some name => name != "" && p.paramName == name
    | none, none => true
    | _, _ => false

/-- The starred arguments forward the parameter that collects positional arguments. -/
def sameVariadic (c : CallParts) (g : Signature) : Bool :=
  forwards g.variadic (c.args.filterMap Node.starredValue?)

/-- The spread keywords forward the parameter that collects keyword arguments. -/
def sameVariadicKeyword (c : CallParts) (g : Signature) : Bool :=
  forwards g.variadicKeyword
    (c.named.filterMap fun (name, value) => if name.isNone then some value else none)

/-- Arguments match parameters one by one: a name is the name of its parameter, and a starred
argument has no parameter beside it. -/
def matchPositional : List Node → List Node → Bool
  | [], [] => true
  | [], _ :: _ => false
  | a :: args, [] => a.starredValue?.isSome && matchPositional args []
  | a :: args, p :: parameters =>
    a.name? == some p.paramName && matchPositional args parameters

/-- The positional arguments are the positional parameters. -/
def samePositional (c : CallParts) (g : Signature) : Bool :=
  matchPositional c.args g.withoutSpecial

/-- The names of the keyword arguments whose value is a variable of the same name. -/
def passedOn (c : CallParts) : List String :=
  c.named.filterMap fun (name, value) => if name = value.name? then name else none

/-- The keyword arguments apart from spread names. -/
def ownKeywords (c : CallParts) : List (Option String × Node) :=
  c.named.filter fun (name, value) => !(name.isNone && value.name?.isSome)

/-- The keyword arguments are the keyword-only parameters. -/
def sameKeywords (c : CallParts) (g : Signature) : Bool :=
  g.keywordOnly.all (fun p => c.passedOn.contains p.paramName) &&
    c.ownKeywords.length == g.keywordOnly.length

/-- The call passes on exactly the parameters of a function. -/
def matchesSignature (c : CallParts) (g : Signature) : Bool :=
  c.sameVariadic g && c.sameVariadicKeyword g && c.samePositional g && c.sameKeywords g

end CallParts

/-! ### Calls of the parent class -/

/-- Why there is no answer to which arguments a call of the parent class has. -/
inductive ParentCallError where
  /-- The node has no arguments at all. -/
  | noArguments
  /-- The node has parameters instead of arguments. -/
  | parameters
  /-- An argument is missing. -/
  | missing
  deriving DecidableEq

namespace CallParts

/-- The values of the keyword arguments with a name. -/
def keywordValue? (c : CallParts) (name : String) : Option Node :=
  (c.named.reverse.find? fun entry => entry.1 == some name).map Prod.snd

/-- The type and the object that a call names: two positional arguments, two keyword arguments, or
one of each. -/
def typeAndObject (c : CallParts) : Except ParentCallError (Option Node × Option Node) :=
  if c.args.length = 2 then .ok (c.args[0]?, c.args[1]?)
  else if c.keywords.length = 2 then .ok (c.keywordValue? "t", c.keywordValue? "obj")
  else
    match c.args, c.named with
    | a :: _, (_, v) :: _ => .ok (some a, some v)
    | _, _ => .error .missing

/-- The call names the given type and object. -/
def namesTypeAndObject (c : CallParts) (type object : String) : Except ParentCallError Bool :=
  c.typeAndObject.map fun (a, b) =>
    a.bind Node.name? == some type && b.bind Node.name? == some object

end CallParts

namespace Node

/-- The node names the given type and object as its arguments. -/
def namesTypeAndObject (n : Node) (type object : String) : Except ParentCallError Bool :=
  match n.shape with
  | .call func args keywords => (CallParts.mk func args keywords).namesTypeAndObject type object
  | .functionDef .. | .lambda .. => .error .parameters
  | _ => .error .noArguments

/-- A call of the parent class. -/
def parentCall? (n : Node) : Option CallParts :=
  n.call?.filter fun c => c.func.name? == some "super"

/-- A call of the parent class that a method should make: without arguments, or with the class and
the object of the method. -/
def isOrdinaryParentCall (n : Node) (className : String) : Except ParentCallError Bool :=
  match n.parentCall? with
  | none => .ok false
  | some c =>
    match c.args.length + c.keywords.length with
    | 0 => .ok true
    | 2 => c.namesTypeAndObject className "self"
    | _ => .ok false

end Node

end Stricture
