import Stricture.Grouping
import Stricture.Name.Quality
import Stricture.Subject
import Stricture.Text.Identifier
import Stricture.Tree.Method
import Stricture.Tree.Unwrap

/-!
# Rules for classes and methods

The bases and the body of a class, what its methods may be called and do, its slots, attributes of
objects that hide variables of their class, and the order of methods.
-/

namespace Stricture.Rules

/-! ### Bases and bodies -/

/-- The bases of a class. -/
def bases (n : Node) : List Node :=
  match n.shape with
  | .classDef _ bases _ _ _ => bases
  | _ => []

/-- A base is a name, an attribute of a name, or one of these with one subscript. -/
def isProperBase (base : Node) : Bool :=
  let parts := base.accessParts
  match base.kind with
  | .name => true
  | .attr => parts.all fun part => part.isAny [.name, .attr]
  | .subscript =>
    parts.countP (fun part => part.kind == .subscript) == 1
      && parts.all fun part => part.isAny [.name, .attr, .subscript]
  | _ => false

/-- The findings for one base of a class. -/
def baseFindings (cls base : Node) : List Finding :=
  if !isProperBase base then [Violation.wrongBaseClass.atNode base]
  else
    match base.name? with
    | none => []
    | some name =>
      if name = "BaseException" then [Violation.baseExceptionSubclass.atNode cls]
      else if name = "object" ∧ 2 ≤ (bases cls).length then
        [Violation.objectInBaseClassesList.atNode cls name]
      else reportIf (Name.isForbiddenBase name) (Violation.builtinSubclass.atNode cls name)

/-- A statement that belongs into the body of a class. -/
def isClassContent (n : Node) : Bool :=
  n.isAny [.functionDef, .asyncFunctionDef, .classDef, .assign, .annAssign] || n.isDocString

/-- Definitions of classes. -/
def classDefinitions (s : Site) : List Finding :=
  let n := s.node
  match n.shape with
  | .classDef name bases _ body _ =>
    reportIf bases.isEmpty (Violation.requiredBaseClass.atNode n name)
      ++ bases.flatMap (baseFindings n)
      ++ (body.filter fun m => !isClassContent m).map fun m =>
        Violation.wrongClassBodyContent.atNode m
  | _ => []

/-! ### Methods -/

/-- The magic methods that should not be defined. -/
def unwantedMagicMethods : List String :=
  ["__del__", "__delitem__", "__delete__", "__dir__", "__delattr__"]

/-- The magic methods that may be asynchronous. -/
def asyncMagicMethods : List String :=
  ["__anext__", "__aenter__", "__aexit__"]

/-- The call whose result a method returns if it does nothing else. -/
def onlyCall? (method : Node) : Option Node :=
  match method.body with
  | [statement] => returnedCall? statement
  | [first, statement] => if first.isDocString then returnedCall? statement else none
  | _ => none
where
  /-- The call that a statement returns. -/
  returnedCall? (statement : Node) : Option Node :=
    match statement.shape with
    | .returned (some value) => if value.kind = .call then some value else none
    | _ => none

/-- A method that only calls the method of the parent class with the same arguments. -/
def isUselessMethod (method : Node) (name className : String) : Bool :=
  method.decorators.isEmpty &&
    match (onlyCall? method).bind Node.call?, method.signature? with
    | some c, some g =>
      match c.func.shape with
      | .attr value attr _ =>
        attr == name && (value.isOrdinaryParentCall className).toOption == some true
          && c.matchesSignature g
      | _ => false
    | _, _ => false

/-- The findings for a function whose context is a class. -/
def boundMethod (method : Node) (name : String) (cls : Node) : List Finding :=
  let className := cls.definedName?.getD ""
  reportIf ((method.signature?.map Signature.all).any List.isEmpty)
      (Violation.methodWithoutArguments.atNode method name)
    ++ reportIf (unwantedMagicMethods.contains name) (Violation.badMagicMethod.atNode method name)
    ++ reportIf (method.kind == .asyncFunctionDef && Name.isMagic name
        && !asyncMagicMethods.contains name) (Violation.asyncMagicMethod.atNode method name)
    ++ reportIf (isUselessMethod method name className)
      (Violation.uselessOverwrittenMethod.atNode method name)

/-- Methods, and functions that look like methods. -/
def methods (s : Site) : List Finding :=
  let n := s.node
  match n.shape with
  | .functionDef _ name _ _ decorators _ =>
    (decorators.filter fun d => d.name? == some "staticmethod").map
        (fun _ => Violation.staticMethod.atNode n)
      ++ (match s.context? with
        | some cls => if cls.kind = .classDef then boundMethod n name cls else []
        | none => [])
      ++ reportIf (name == "__init__" && n.containsKind [.yielded])
        (Violation.yieldInsideInit.atNode n)
  | _ => []

/-! ### Slots -/

/-- An assignment to the slots of a class. -/
def isSlotsAssignment (s : Site) : Bool :=
  s.node.isAssignment && s.contextIsAny [.classDef]
    && s.node.targets.any fun target => target.name? == some "__slots__"

/-- What the slots of a class may be. -/
def isSlotsValue (n : Node) : Bool :=
  n.isAny [.tuple, .attr, .subscript, .name, .call]

/-- The name of a slot: a text, or a starred expression as text. -/
def slotName? (text : Site → String) (s : Site) : Option String :=
  (match s.node.shape with
    | .constant (.text name) _ => some name
    | .starred .. => some (Text.strip (text s))
    | _ => none).filter fun name => name != ""

/-- Slots with the same name are fine if there is one of them, and it is starred or named by an
identifier. -/
def areFineSlots (slots : List Node) : Bool :=
  slots.length ≤ 1 && slots.all fun n =>
    match n.shape with
    | .constant (.text name) _ => Text.isIdentifier name
    | _ => true

/-- The slots up to and including the first one without a name. -/
def visitedSlots (text : Site → String) : List Site → List Site
  | [] => []
  | s :: rest => if (slotName? text s).isSome then s :: visitedSlots text rest else [s]

/-- The findings for a tuple of slots. -/
def slotItems (text : Site → String) (n : Node) (items : List Site) : List Finding :=
  match items.find? fun s => (slotName? text s).isNone with
  | some s => [Violation.wrongSlots.atNode s.node]
  | none =>
    let groups := grouped (slotName? text) items
    reportIf (groups.any fun group => !areFineSlots (group.2.map Site.node))
      (Violation.wrongSlots.atNode n)

/-- The slots of classes. -/
def slots : RenderingRule := fun seen s =>
  if isSlotsAssignment s then
    match s.node.assignedValue? with
    | some value =>
      match value.shape with
      | .tuple elements _ =>
        let items := elements.map (s.under value).under
        let starred := (visitedSlots seen.text items).filter fun t => t.node.kind == .starred
        RenderingRule.requiring seen starred []
          (.ofFindings (slotItems seen.text s.node items), seen.markAll starred)
      | _ =>
        (.ofFindings (reportIf (!isSlotsValue value) (Violation.wrongSlots.atNode s.node)), seen)
    | none => (.ofFindings [Violation.wrongSlots.atNode s.node], seen)
  else (.empty, seen)

/-! ### Attributes -/

/-- The names that are assigned in the body of a class. -/
def classVariables (s : Site) : List String :=
  (s.walk.filter fun t =>
    t.node.isAssignment && t.context?.any s.node.is && t.node.assignedValue?.isSome).flatMap
      fun t => t.node.assignedVariables

/-- An attribute of an object hides a variable of its class. -/
def shadowedAttributes (s : Site) : List Finding :=
  if s.node.kind = .classDef then
    let names := classVariables s
    s.node.walk.flatMap fun n =>
      match n.shape with
      | .attr _ attr (some .store) =>
        reportIf (names.contains attr) (Violation.shadowedClassAttribute.atNode n attr)
      | _ => []
  else []

/-! ### The order of methods -/

/-- How early a method comes: construction first, then public, protected and private methods. -/
def methodRank (name : String) : Nat :=
  if name = "__new__" then 4
  else if name = "__init__" then 3
  else if Name.isProtected name then 1
  else if Name.isPrivate name then 0
  else 2

/-- The names of the methods of a class, level by level. -/
def methodNames (s : Site) : List String :=
  (s.walk.filter fun t => t.node.isFunction && t.context?.any s.node.is).filterMap fun t =>
    t.node.definedName?

/-- The methods in the order that is wanted. -/
def orderedMethods (names : List String) : List String :=
  names.mergeSort fun a b => methodRank b ≤ methodRank a

/-- The order of the methods of a class. -/
def methodOrder (s : Site) : List Finding :=
  let names := methodNames s
  reportIf (s.node.kind == .classDef && names != orderedMethods names)
    (Violation.wrongMethodOrder.atNode s.node)

end Stricture.Rules
