import Stricture.Finding
import Stricture.Name.Access
import Stricture.Tree.Target

/-!
# Rules for imports

Where imports stand, what they name, and under which names.
-/

namespace Stricture.Rules

/-- Name and new name of an imported name. -/
def importedPair (n : Node) : String × Option String :=
  match n.shape with
  | .importedName name asName => (name, asName)
  | _ => ("", none)

/-- The features that may be asked for in advance. -/
def openFeatures : List String :=
  ["annotations", "generator_stop"]

/-- An import that is not at the top level of its file. -/
def isNestedImport (s : Site) : Bool :=
  s.parent?.any fun p => p.node.kind != .file

/-- Names that are imported under the name that they have. -/
def sameAliases (n : Node) : List Finding :=
  (n.aliases.map importedPair).flatMap fun (name, asName) =>
    reportIf (asName == some name) (Violation.sameAliasImport.atNode n name)

/-- Protected modules and names. -/
def protectedImports (n : Node) : List Finding :=
  let names := n.importParts ++ n.aliases.map fun a => (importedPair a).1
  (names.filter Name.isProtected).map fun _ => Violation.protectedModule.atNode n

/-- Names of modules with a path. -/
def dottedImports (n : Node) : List Finding :=
  (n.aliases.map importedPair).flatMap fun (name, _) =>
    reportIf (name.toList.contains '.') (Violation.dottedRawImport.atNode n name)

/-- Features that are asked for in advance. -/
def futureImports (n : Node) : List Finding :=
  (n.aliases.map importedPair).flatMap fun (name, _) =>
    reportIf (!openFeatures.contains name) (Violation.futureImport.atNode n name)

/-- Imports of both kinds. -/
def imports (s : Site) : List Finding :=
  let n := s.node
  let nested := reportIf (isNestedImport s) (Violation.nestedImport.atNode n)
  match n.shape with
  | .imported _ => nested ++ dottedImports n ++ sameAliases n ++ protectedImports n
  | .importedFrom source _ level =>
    reportIf (level != some 0) (Violation.localFolderImport.atNode n) ++ nested
      ++ (if source = some "__future__" then futureImports n else [])
      ++ sameAliases n ++ protectedImports n
  | _ => []

end Stricture.Rules
