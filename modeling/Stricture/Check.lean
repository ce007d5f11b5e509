import Stricture.Rules.Arithmetic
import Stricture.Rules.Assignment
import Stricture.Rules.Attribute
import Stricture.Rules.Binding
import Stricture.Rules.Body
import Stricture.Rules.Call
import Stricture.Rules.Class
import Stricture.Rules.Comment
import Stricture.Rules.Comparison
import Stricture.Rules.Condition
import Stricture.Rules.Display
import Stricture.Rules.Function
import Stricture.Rules.FunctionSize
import Stricture.Rules.Import
import Stricture.Rules.Keyword
import Stricture.Rules.Layout
import Stricture.Rules.LineComplexity
import Stricture.Rules.Literal
import Stricture.Rules.Loop
import Stricture.Rules.Module
import Stricture.Rules.Naming
import Stricture.Rules.Nesting
import Stricture.Rules.NumberText
import Stricture.Rules.Overuse
import Stricture.Rules.Returning
import Stricture.Rules.StringText
import Stricture.Rules.Count
import Stricture.Rules.TokenLayout
import Stricture.Rules.TryBlock

/-!
# Checks

All checks, in the order in which they are made. A check that is stopped by a fault does not stop
the others.
-/

namespace Stricture

/-- The checks. -/
inductive Check where
  -- File names
  | moduleName
  -- Statements and expressions
  | statementLists | elementLayout | raisedErrors | unwantedStatements | contextManagers
  | returnConsistency | returnedVariables | comprehensions | loopBodies | loopHeads
  | attributeAccess | hintLayout | calls | functionDefinitions | lambdas | tryBlocks
  | nestedTryBlocks | imports | givenNames | moduleMetadata | selfAssignments | unusedVariables
  | magicNumbers | formattedTexts | unpacking | displays | uselessOperators | wrongOperators
  | conditionals | comparisons | compareOrder | negatedComparisons | branches | joinedConditions
  | hiddenExpressions
  -- Classes
  | classDefinitions | methods | slots | shadowedAttributes | methodOrder
  -- Modules
  | moduleContents | magicFunctions | changingConstants
  -- Bound names
  | boundNames | usesAfterBlocks
  -- Size and complexity
  | functionSizes | lineComplexity | nesting | indentation | importCounts | memberCounts
  | methodCounts | conditionCounts | branchCounts | tryCounts | yieldedCounts | baseCounts
  | overusedTexts | overusedExpressions
  -- Tokens
  | comments | openingComments | keywordSpacing | numbers | strings | adjacentStrings
  | extraIndentation | brackets | elseBranches
  deriving DecidableEq

namespace Check

/-- All checks in the order in which they are made. -/
def all : List Check := [
  .moduleName, .statementLists, .elementLayout, .raisedErrors, .unwantedStatements,
  .contextManagers, .returnConsistency, .returnedVariables, .comprehensions, .loopBodies,
  .loopHeads, .attributeAccess, .hintLayout, .calls, .functionDefinitions, .lambdas, .tryBlocks,
  .nestedTryBlocks, .imports, .givenNames, .moduleMetadata, .selfAssignments, .unusedVariables,
  .magicNumbers, .formattedTexts, .unpacking, .displays, .uselessOperators, .wrongOperators,
  .conditionals, .comparisons, .compareOrder, .negatedComparisons, .branches, .joinedConditions,
  .hiddenExpressions, .classDefinitions, .methods, .slots, .shadowedAttributes, .methodOrder,
  .moduleContents, .magicFunctions, .changingConstants, .boundNames, .usesAfterBlocks,
  .functionSizes, .lineComplexity, .nesting, .indentation, .importCounts, .memberCounts,
  .methodCounts, .conditionCounts, .branchCounts, .tryCounts, .yieldedCounts, .baseCounts,
  .overusedTexts, .overusedExpressions, .comments, .openingComments, .keywordSpacing, .numbers,
  .strings, .adjacentStrings, .extraIndentation, .brackets, .elseBranches]

/-- What a check does. -/
def judge : Check → Judgement
  | moduleName => .ofFileName fun o filename => .ofFindings (Rules.moduleName o filename)
  | statementLists => .ofSites fun _ => Rules.statementLists
  | elementLayout => .ofSiteReports Rules.elementLayout
  | raisedErrors => .ofSites fun _ => Rules.raisedErrors
  | unwantedStatements => .ofSites fun _ => Rules.unwantedStatements
  | contextManagers => .ofSites fun _ => Rules.contextManagers
  | returnConsistency => .ofSites fun _ => Rules.returnConsistency
  | returnedVariables => .ofSiteReports Rules.returnedVariables
  | comprehensions => .ofProgram fun _ p => Rules.comprehensionRules p.sites
  | loopBodies => .ofSiteReports Rules.loopBodies
  | loopHeads => .ofSites fun _ => Rules.loopHeads
  | attributeAccess => .ofSites fun _ => Rules.attributeAccess
  | hintLayout => .ofSiteReports Rules.hintLayout
  | calls => Rules.calls.toJudgement
  | functionDefinitions => .ofSites fun _ => Rules.functionDefinitions
  | lambdas => .ofSites fun _ => Rules.lambdas
  | tryBlocks => Rules.tryBlocks.toJudgement
  | nestedTryBlocks => .ofSites fun _ => Rules.nestedTryBlocks
  | imports => .ofSites fun _ => Rules.imports
  | givenNames => .ofSites Rules.givenNames
  | moduleMetadata => .ofSites fun _ => Rules.moduleMetadata
  | selfAssignments => .ofSites fun _ => Rules.selfAssignments
  | unusedVariables => .ofSites fun _ => Rules.unusedVariables
  | magicNumbers => .ofSites fun _ => Rules.magicNumbers
  | formattedTexts => .ofSites fun _ => Rules.formattedTexts
  | unpacking => .ofSiteReports Rules.unpacking
  | displays => Rules.displays.toJudgement
  | uselessOperators => .ofSites fun _ => Rules.uselessOperators
  | wrongOperators => .ofSites fun _ => Rules.wrongOperators
  | conditionals => Rules.conditionals.toJudgement
  | comparisons => Rules.comparisons.toJudgement
  | compareOrder => .ofSiteReports Rules.compareOrder
  | negatedComparisons => .ofSites fun _ => Rules.negatedComparisons
  | branches => Rules.branches.toJudgement
  | joinedConditions => Rules.joinedConditions.toJudgement
  | hiddenExpressions => Rules.hiddenExpressions.toJudgement
  | classDefinitions => .ofSites fun _ => Rules.classDefinitions
  | methods => .ofSites fun _ => Rules.methods
  | slots => Rules.slots.toJudgement
  | shadowedAttributes => .ofSites fun _ => Rules.shadowedAttributes
  | methodOrder => .ofSites fun _ => Rules.methodOrder
  | moduleContents =>
    .ofFindings fun subject =>
      subject.program.sites.flatMap (Rules.moduleContents subject.options subject.filename)
  | magicFunctions => .ofSites fun _ => Rules.magicFunctions
  | changingConstants => .ofSites fun _ => Rules.changingConstants
  | boundNames => Rules.boundNames
  | usesAfterBlocks => .ofProgram fun _ p => Rules.usesAfterBlocks [] p.sites
  | functionSizes => .ofProgram fun o p => Rules.functionSizes o p.sites
  | lineComplexity => .ofProgram fun o p => Rules.lineComplexity o p.sites
  | nesting => .ofSites fun _ => Rules.nesting
  | indentation => .ofSites fun _ => Rules.indentation
  | importCounts => .ofProgram fun o p => Rules.importCounts o p.sites
  | memberCounts => .ofProgram fun o p => Rules.memberCounts o p.sites
  | methodCounts => .ofProgram fun o p => Rules.methodCounts o p.sites
  | conditionCounts => .ofSites fun _ => Rules.conditionCounts
  | branchCounts => .ofProgram fun _ p => Rules.branchCounts p.sites
  | tryCounts => .ofSites Rules.tryCounts
  | yieldedCounts => .ofSites fun _ => Rules.yieldedCounts
  | baseCounts => .ofSites Rules.baseCounts
  | overusedTexts => .ofProgram fun o p => Rules.overusedTexts o p.sites
  | overusedExpressions => Rules.overusedExpressions
  | comments => .ofTokens Rules.comments
  | openingComments => .ofTokens Rules.openingComments
  | keywordSpacing => .ofTokens Rules.keywordSpacing
  | numbers => .ofTokens Rules.numbers
  | strings => .ofTokens Rules.strings
  | adjacentStrings => .ofTokens fun tokens => .ofFindings (Rules.adjacentStrings false tokens)
  | extraIndentation => .ofTokens Rules.extraIndentation
  | brackets => .ofTokens Rules.brackets
  | elseBranches => .ofTokens Rules.elseBranches

end Check

namespace Subject

/-- The reports of checks that are made one after the other. -/
def examine (subject : Subject) : Memory → List Check → List Report
  | _, [] => []
  | memory, check :: rest =>
    let (report, memory') := check.judge subject memory
    report :: subject.examine memory' rest

/-- The reports of all checks. -/
def examineAll (subject : Subject) (memory : Memory := {}) : List Report :=
  subject.examine memory Check.all

end Subject

/-- The subject that checks look at: positions are corrected first. -/
def Subject.prepare (program : Program) (tokens : List Token) (filename : String)
    (options : Options) : Subject :=
  ⟨program.settle, tokens, filename, options⟩

end Stricture
