import Stricture.Finding
import Stricture.Name.Access
import Stricture.Tree.Signature

/-!
# Rules for attributes

Protected and magic attributes are for the object itself.
-/

namespace Stricture.Rules

/-- The value is the object or class of a method, or a call of the parent class. -/
def isOwnObject (value : Node) : Bool :=
  value.name?.any specialParameters.contains || value.parentCall?.isSome

/-- The magic attributes that everybody may use. -/
def openMagicAttributes : List String :=
  ["__class__", "__name__", "__qualname__", "__doc__"]

/-- Access to attributes that are not public. -/
def attributeAccess (s : Site) : List Finding :=
  match s.node.shape with
  | .attr value attr _ =>
    if isOwnObject value then []
    else
      reportIf (Name.isProtected attr) (Violation.protectedAttribute.atNode s.node attr)
        ++ reportIf (Name.isMagic attr && !openMagicAttributes.contains attr)
          (Violation.directMagicAttributeAccess.atNode s.node attr)
  | _ => []

end Stricture.Rules
