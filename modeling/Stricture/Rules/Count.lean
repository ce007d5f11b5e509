import Stricture.Finding
import Stricture.Grouping
import Stricture.Options
import Stricture.Rules.FunctionSize
import Stricture.Tree.Block
import Stricture.Tree.Method
import Stricture.Tree.Target

/-!
# Rules for how many there may be

Imports, members of modules and classes, conditions, branches, handlers and values.
-/

namespace Stricture.Rules

/-- A count of the whole file that is over its limit. -/
def fileOverLimit (v : Violation) (limit : Limit) (count : Nat) : List Finding :=
  reportIf (limit.isExceededBy count) (v.atFile (toString count))

/-! ### Imports and members -/

/-- The number of imports, and of imported names. -/
def importCounts (o : Options) (sites : List Site) : List Finding :=
  let imports := sites.filter fun s => s.node.isAny [.imported, .importedFrom]
  fileOverLimit .tooManyImports o.maxImports imports.length
    ++ fileOverLimit .tooManyImportedNames o.maxImportedNames
      (imports.flatMap fun s => s.node.aliases).length

/-- A definition of a function or a class. -/
def isDefinition (n : Node) : Bool :=
  n.isAny [.classDef, .asyncFunctionDef, .functionDef]

/-- The number of decorators, and of members of the module. -/
def memberCounts (o : Options) (sites : List Site) : List Finding :=
  let definitions := sites.filter fun s => isDefinition s.node
  definitions.flatMap (fun s =>
      overLimit .tooManyDecorators o.maxDecorators s.node s.node.decorators.length)
    ++ fileOverLimit .tooManyModuleMembers o.maxModuleMembers
      (definitions.countP fun s => s.parentIsAny [.file] && s.methodKind?.isNone)

/-- The number of methods of classes, in the order of their first methods. -/
def methodCounts (o : Options) (sites : List Site) : List Finding :=
  let methods := sites.filter fun s => s.node.isFunction && s.parentIsAny [.classDef]
  let classes := methods.filterMap fun s => s.parent?.map Site.node
  (grouped Node.id classes).flatMap fun (_, group) =>
    group.head?.toList.flatMap fun cls =>
      overLimit .tooManyMethods o.maxMethods cls group.length

/-- The number of bases of a class. -/
def baseCounts (o : Options) (s : Site) : List Finding :=
  match s.node.shape with
  | .classDef _ bases _ _ _ => overLimit .tooManyBaseClasses o.maxBaseClasses s.node bases.length
  | _ => []

/-! ### Conditions -/

mutual

/-- The number of conditions that are joined, through joined conditions right below. -/
def countConditions : Node → Nat
  | .mk _ _ (.boolean _ values) => countAllConditions values
  | _ => 1

/-- The number of conditions of several values. -/
def countAllConditions : List Node → Nat
  | [] => 0
  | n :: rest => countConditions n + countAllConditions rest

end

/-- The number of operators that a chain of comparisons may have: one more if all of them test for
equality, or all for inequality. -/
def chainLimit (ops : List CompareOp) : Nat :=
  if ops.all (· == .eq) || ops.all (· == .notEq) then 3 else 2

/-- The number of joined conditions, and of comparisons in a chain. -/
def conditionCounts (s : Site) : List Finding :=
  match s.node.shape with
  | .boolean .. =>
    let count := countConditions s.node
    reportIf (4 < count) (Violation.tooManyConditions.atNode s.node (toString count))
  | .compare _ ops _ =>
    reportIf (chainLimit ops < ops.length)
      (Violation.tooLongCompare.atNode s.node (toString ops.length))
  | _ => []

/-! ### Chains of branches -/

/-- Branches that begin a chain, each with the branches that were found to continue it. -/
abbrev BranchChains := List (Node × List Node)

/-- The beginning of the chain to which a branch belongs: of the first chain that knows it, or the
branch itself. -/
def BranchChains.rootOf (chains : BranchChains) (n : Node) : Node :=
  ((chains.find? fun chain => chain.2.any n.is).map Prod.fst).getD n

/-- Adds branches to the chain of a root. -/
def BranchChains.add (chains : BranchChains) (root : Node) (more : List Node) : BranchChains :=
  if chains.any fun chain => chain.1.is root then
    chains.map fun chain => if chain.1.is root then (chain.1, chain.2 ++ more) else chain
  else chains ++ [(root, more)]

/-- Looks at one more node. A branch whose other case is made of branches only, or of nothing, goes
on with them. -/
def BranchChains.step (chains : BranchChains) (n : Node) : BranchChains :=
  if n.kind = .branch ∧ n.orelse.all (fun m => m.kind == .branch) then
    let root := chains.rootOf n
    chains.add root ((if n.is root then [] else [n]) ++ n.orelse)
  else chains

/-- All chains of a program. -/
def branchChains (sites : List Site) : BranchChains :=
  sites.foldl (fun chains s => chains.step s.node) []

/-- Chains with too many branches. -/
def branchCounts (sites : List Site) : List Finding :=
  (branchChains sites).flatMap fun (root, members) =>
    let count := (members.map Node.id).eraseDups.length
    reportIf (3 < count) (Violation.tooManyElifs.atNode root (toString count))

/-! ### Handlers and values -/

/-- The number of handlers, and of statements that may raise an exception. -/
def tryCounts (o : Options) (s : Site) : List Finding :=
  match s.node.shape with
  | .tryBlock body handlers _ _ =>
    reportIf (3 < handlers.length) (Violation.tooManyExceptCases.atNode s.node)
      ++ overLimit .tooLongTryBody o.maxTryBodyLength s.node body.length
  | _ => []

/-- The number of values that are yielded at once. -/
def yieldedCounts (s : Site) : List Finding :=
  match s.node.shape with
  | .yielded (some value) =>
    match value.shape with
    | .tuple elements _ =>
      reportIf (5 < elements.length)
        (Violation.tooLongYieldTuple.atNode s.node (toString elements.length))
    | _ => []
  | _ => []

end Stricture.Rules
