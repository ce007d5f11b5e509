import Stricture.Tree.Kind

/-!
# Targets

What a target binds, and the small questions about names that rules ask of a node.
-/

namespace Stricture

namespace Node

/-- The name at the node, with or without a star before it. -/
def targetName? (n : Node) : Option String :=
  match n.shape with
  | .starred value _ => value.name?
  | _ => n.name?

end Node

mutual

/-- The names that a target binds: a name, a starred name, or those of a tuple. -/
def Node.variables : Node → List String
  | .mk _ _ (.tuple elements _) => allVariables elements
  | n => (n.targetName?.filter fun name => name != "").toList

/-- The names that several targets bind. -/
def allVariables : List Node → List String
  | [] => []
  | n :: rest => n.variables ++ allVariables rest

end

namespace Node

/-- The name that is assigned at the node itself: a stored name, a stored attribute, or the name of
an exception handler. -/
def assignedName? (n : Node) : Option String :=
  match n.shape with
  | .name id (some .store) => some id
  | .attr _ attr (some .store) => some attr
  | .handler _ name _ => name
  | _ => none

/-- The targets of an assignment. -/
def targets (n : Node) : List Node :=
  match n.shape with
  | .assign targets _ => targets
  | .annAssign target _ _ => [target]
  | _ => []

/-- The value of an assignment. -/
def assignedValue? (n : Node) : Option Node :=
  match n.shape with
  | .assign _ value => some value
  | .annAssign _ _ value => value
  | _ => none

/-- The names that an assignment binds. -/
def assignedVariables (n : Node) : List String :=
  n.targets.flatMap Node.variables

/-- A block may bind a name, a starred name, or a tuple of such. -/
def isBlockVariable (n : Node) : Bool :=
  match n.shape with
  | .tuple elements _ => elements.all fun e => e.targetName?.isSome
  | _ => n.targetName?.isSome

/-- Both nodes are the same name. -/
def sameVariable (m n : Node) : Bool :=
  match m.name?, n.name? with
  | some a, some b => a == b
  | _, _ => false

/-- A statement that is nothing but a text. -/
def isDocString (n : Node) : Bool :=
  match n.shape with
  | .expression value => value.isText
  | _ => false

/-- The keys of a dictionary, where an entry without a key is represented by its value. -/
def dictElements (n : Node) : List Node :=
  match n.shape with
  | .dict keys values => (keys.zip values).map fun (key, value) => key.getD value
  | _ => []

/-- The name of the exception that is raised, whether it is called or not. -/
def exceptionName? (n : Node) : Option String :=
  match n.shape with
  | .raised (some error) _ =>
    match error.shape with
    | .call func _ _ => func.name?
    | _ => error.name?
  | _ => none

/-- The parts of the path of the module from which names are imported. -/
def importParts (n : Node) : List String :=
  match n.shape with
  | .importedFrom source _ _ => (source.getD "").splitOn "."
  | _ => [""]

/-- The names that are imported, with their new names. -/
def aliases (n : Node) : List Node :=
  match n.shape with
  | .imported names | .importedFrom _ names _ => names
  | _ => []

/-- The name that an import binds: the new name if it has one. -/
def aliasName (n : Node) : String :=
  match n.shape with
  | .importedName name asName => (asName.filter fun new => new != "").getD name
  | _ => ""

end Node

end Stricture
