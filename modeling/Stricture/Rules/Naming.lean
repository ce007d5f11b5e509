import Stricture.Finding
import Stricture.Name.Quality
import Stricture.Options
import Stricture.Tree.Block
import Stricture.Tree.Signature
import Stricture.Tree.Target

/-!
# Rules for names

What may be wrong with a name, and the places at which names are given: definitions, parameters,
imports under a new name, and assignments. File names follow the same rules.
-/

namespace Stricture.Rules

/-- The names that say nothing. -/
def emptyNames : List String := [
  "data", "result", "results", "item", "items", "value", "values", "val", "vals", "var", "vars",
  "variable", "content", "contents", "info", "handle", "handler", "file", "obj", "objects", "objs",
  "some", "do", "param", "params", "parameters", "no", "true", "false", "foo", "bar", "baz"]

/-- The violations of a name by its length. -/
def lengthViolations (o : Options) (name : String) : List Violation :=
  (if Name.isTooShort o.minNameLength.amount name then [.tooShortName] else [])
    ++ if Name.isTooLong o.maxNameLength.amount name then [.tooLongName] else []

/-- The violations of a name by its underscores. -/
def underscoreViolations (name : String) : List Violation :=
  (if Name.isPrivate name then [.privateName] else [])
    ++ (if Name.hasUnderscoredNumber name then [.underscoredNumberName] else [])
    ++ (if Name.hasConsecutiveUnderscores name then [.consecutiveUnderscoresInName] else [])
    ++ (if Name.hasTrailingUnderscore name then [.trailingUnderscore] else [])
    ++ if Name.isUnused name && 1 < name.length then [.wrongUnusedVariableName] else []

/-- All violations of a name. The name of the object or class of a method is reserved for the first
parameter. -/
def nameViolations (o : Options) (isFirst : Bool) (name : String) : List Violation :=
  (if Name.isWrong emptyNames name then [.wrongVariableName] else [])
    ++ (if !isFirst && Name.isWrong specialParameters name then [.reservedArgumentName] else [])
    ++ (if Name.hasUnicode name then [.unicodeName] else [])
    ++ lengthViolations o name ++ underscoreViolations name

/-- The findings for a name that is given at a node. -/
def nameFindings (o : Options) (n : Node) (isFirst : Bool) (name : String) : List Finding :=
  (nameViolations o isFirst name).map fun v => v.atNode n name

/-- The names of parameters. -/
def parameterNames (o : Options) (g : Signature) : List Finding :=
  g.all.flatMap fun p => nameFindings o p (g.isFirst p.paramName && !g.isLambda) p.paramName

/-- Attributes of a class in upper case. -/
def upperAttributes (cls : Node) : List Finding :=
  (cls.body.flatMap Node.targets).flatMap fun target =>
    match target.name? with
    | some name => reportIf (Name.hasUpper name) (Violation.upperCaseAttribute.atNode target name)
    | none => []

/-- The names that are given at a site. -/
def givenNames (o : Options) (s : Site) : List Finding :=
  let n := s.node
  match n.shape with
  | .classDef name _ _ _ _ => upperAttributes n ++ nameFindings o n false name
  | .functionDef _ name _ _ _ _ =>
    nameFindings o n false name ++ (n.signature?.map (parameterNames o)).getD []
  | .lambda .. => (n.signature?.map (parameterNames o)).getD []
  | .imported names | .importedFrom _ names _ =>
    names.flatMap fun a =>
      match a.shape with
      | .importedName _ (some asName) =>
        if asName = "" then [] else nameFindings o n false asName
      | _ => []
  | _ => (n.assignedName?.map (nameFindings o n false)).getD []

/-! ### File names -/

/-- The names of modules that say nothing. -/
def emptyModuleNames : List String :=
  ["util", "utils", "utilities", "helpers"]

/-- The magic names that a module may have. -/
def magicModuleNames : List String :=
  ["__init__", "__main__"]

/-- The violations of a module name, and whether its text is shown. -/
def moduleNameViolations (o : Options) (stem : String) : List (Violation × Bool) :=
  (if Name.isWrong emptyModuleNames stem then [(.wrongModuleName, false)] else [])
    ++ (if Name.isMagic stem && !magicModuleNames.contains stem then
      [(.wrongModuleMagicName, false)] else [])
    ++ (if Name.isPrivate stem then [(.privateName, true)] else [])
    ++ (if Name.hasUnicode stem then [(.unicodeName, true)] else [])
    ++ (if Name.isTooShort o.minNameLength.amount stem then [(.tooShortName, true)]
      else if Name.isModulePattern stem then [] else [(.wrongModuleNamePattern, false)])
    ++ (if Name.isTooLong o.maxNameLength.amount stem then [(.tooLongName, true)] else [])
    ++ (if Name.hasConsecutiveUnderscores stem then [(.consecutiveUnderscoresInName, true)] else [])
    ++ if Name.hasUnderscoredNumber stem then [(.underscoredNumberName, true)] else []

/-- The name of the file. -/
def moduleName (o : Options) (filename : String) : List Finding :=
  let stem := Name.stem filename
  (moduleNameViolations o stem).map fun (v, isShown) =>
    v.atFile (if isShown then some stem else none)

end Stricture.Rules
