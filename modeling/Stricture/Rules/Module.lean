import Stricture.Finding
import Stricture.Name.Quality
import Stricture.Options
import Stricture.Tree.Block
import Stricture.Tree.Target

/-!
# Rules for modules

What a module holds, and the functions, constants and variables that it should not define.
-/

namespace Stricture.Rules

/-- The contents of a module. A module that stands for its folder should have none, unless users of
the code are not under control. -/
def moduleContents (o : Options) (filename : String) (s : Site) : List Finding :=
  match s.node.shape with
  | .file body =>
    if Name.stem filename = "__init__" then
      reportIf (o.controlsCode.isOn && (1 < body.length || body.any fun n => !n.isDocString))
        Violation.initModuleHasLogic.atFile
    else reportIf body.isEmpty Violation.emptyModule.atFile
  | _ => []

/-- Functions that change how a module is accessed. -/
def magicFunctions (s : Site) : List Finding :=
  match s.node.shape with
  | .functionDef .plain name _ _ _ _ =>
    reportIf (["__getattr__", "__dir__"].contains name)
      (Violation.badMagicModuleFunction.atNode s.node name)
  | _ => []

/-- Constants of a module whose value can change. -/
def changingConstants (s : Site) : List Finding :=
  let n := s.node
  if n.isAssignment && s.contextIsAny [.file]
      && n.assignedValue?.any fun v =>
        v.isAny [.dict, .list, .setOf, .dictComp, .listComp, .setComp] then
    (n.targets.filter fun target => target.name?.any Name.isConstant).map fun target =>
      Violation.mutableModuleConstant.atNode target
  else []

/-- Variables that describe a module. -/
def moduleMetadata (s : Site) : List Finding :=
  if s.node.isAssignment && s.parentIsAny [.file] then
    (s.node.targets.filterMap Node.name?).flatMap fun name =>
      reportIf (["__author__", "__all__", "__version__", "__about__"].contains name)
        (Violation.wrongModuleMetadata.atNode s.node name)
  else []

end Stricture.Rules
