import Stricture.Proofs.Place.Rules
import Stricture.Proofs.Place.Settled

/-!
# Findings left of the margin

Every check reports at tokens, at nodes of its program, or at the start of the file
(`Check.judge_isLocated`). Together with what corrections do to positions this tells where findings
can stand: never above the first line, and left of the margin only at an asynchronous statement that
had no room for its word `async` on its left (`examineAll_places_of_isPlaced`). Such statements
exist, so the margin is not safe (`examineAll_leavesMargin`).
-/

namespace Stricture

namespace Rules

variable {q : Program}

/-! ### Rules for tokens -/

theorem comments_located (tokens : List Token) : AreLocatedIn q (comments tokens).findings := by
  simp +decide [comments, commentFindings, Violation.atToken_isLocatedIn]

theorem openingComments_located (tokens : List Token) :
    AreLocatedIn q (openingComments tokens).findings := by
  apply AreLocatedIn.sequence
  intro r hr
  obtain ⟨t, _, rfl⟩ := List.mem_map.mp hr
  unfold openingComment
  split
  · split <;> simp +decide [Violation.atToken_isLocatedIn]
  · simp

theorem keywordSpacing_located (tokens : List Token) :
    AreLocatedIn q (keywordSpacing tokens).findings := by
  simp +decide [keywordSpacing, Violation.atToken_isLocatedIn]

theorem numbers_located (tokens : List Token) : AreLocatedIn q (numbers tokens).findings := by
  simp +decide [numbers, numberFindings, Violation.atToken_isLocatedIn]

theorem escapeReportFrom_located (t : Token) (modifiers body : List Char) (place : Nat) :
    AreLocatedIn q (escapeReportFrom t modifiers body place).findings := by
  fun_induction escapeReportFrom t modifiers body place with
  | case1 => exact .nil
  | case2 => exact .nil
  | case3 place i _ next _ ih =>
    exact .andThen (by simp +decide [Violation.atToken_isLocatedIn]) ih

theorem strings_located (tokens : List Token) : AreLocatedIn q (strings tokens).findings := by
  apply AreLocatedIn.sequence
  intro r hr
  obtain ⟨t, _, rfl⟩ := List.mem_map.mp hr
  unfold stringReport
  split
  · simp
  · refine .andThen ?_ ?_
    · simp +decide [modifierFindings, Violation.atToken_isLocatedIn]
    · exact escapeReportFrom_located t _ _ 0

theorem adjacentStrings_located (isAfterString : Bool) (tokens : List Token) :
    AreLocatedIn q (adjacentStrings isAfterString tokens) := by
  induction tokens generalizing isAfterString with
  | nil => exact .nil
  | cons t rest ih =>
    unfold adjacentStrings
    split <;> simp +decide [ih, Violation.atToken_isLocatedIn]

theorem extraIndentation_located (tokens : List Token) :
    AreLocatedIn q (extraIndentation tokens).findings := by
  simp +decide [extraIndentation, Violation.atToken_isLocatedIn]

theorem brackets_located (tokens : List Token) : AreLocatedIn q (brackets tokens).findings := by
  have row (before rest : List Token) : AreLocatedIn q (rowBrackets before rest) := by
    induction rest generalizing before with
    | nil => exact .nil
    | cons t rest ih => simp +decide [rowBrackets, ih, Violation.atToken_isLocatedIn]
  simp [brackets, row]

theorem elseBranches_located (tokens : List Token) :
    AreLocatedIn q (elseBranches tokens).findings := by
  simp +decide [elseBranches, Violation.atToken_isLocatedIn]

end Rules

/-! ### Checks -/

/-- A check all of whose findings are located in the program that it looks at. -/
def Judgement.IsLocated (judge : Judgement) : Prop :=
  ∀ subject memory, AreLocatedIn subject.program (judge subject memory).1.findings

namespace Judgement.IsLocated

theorem ofSites {rule : Options → Site → List Finding}
    (h : ∀ {q : Program} {s : Site}, s ∈ q.sites → ∀ o, AreLocatedIn q (rule o s)) :
    (Judgement.ofSites rule).IsLocated := fun subject _ =>
  AreLocatedIn.flatMap_iff.mpr fun _ hs => h hs subject.options

theorem ofSiteReports {rule : Site → Report}
    (h : ∀ {q : Program} {s : Site}, s ∈ q.sites → AreLocatedIn q (rule s).findings) :
    (Judgement.ofSiteReports rule).IsLocated := by
  intro subject _
  apply AreLocatedIn.sequence
  intro r hr
  obtain ⟨s, hs, rfl⟩ := List.mem_map.mp hr
  exact h hs

theorem ofProgram {rule : Options → Program → List Finding}
    (h : ∀ o q, AreLocatedIn q (rule o q)) : (Judgement.ofProgram rule).IsLocated :=
  fun subject _ => h subject.options subject.program

theorem ofTokens {rule : List Token → Report}
    (h : ∀ (q : Program) tokens, AreLocatedIn q (rule tokens).findings) :
    (Judgement.ofTokens rule).IsLocated :=
  fun subject _ => h subject.program subject.tokens

theorem toJudgement {rule : RenderingRule}
    (h : ∀ {q : Program} {s : Site}, s.node ∈ q.root.walk → ∀ seen,
      AreLocatedIn q (rule seen s).1.findings) :
    rule.toJudgement.IsLocated := fun _ memory =>
  .visit (fun seen _ hs => h (Program.node_mem_walk_of_mem_sites hs) seen) memory.rendered

end Judgement.IsLocated

/-- **Every finding is located**: whatever a check reports without a token stands at a node of the
program that it looks at, or at the start of the file. -/
theorem Check.judge_isLocated (check : Check) : check.judge.IsLocated := by
  have own {rule : Site → List Finding}
      (h : ∀ {q : Program} {s : Site}, s.node ∈ q.root.walk → AreLocatedIn q (rule s)) :
      (Judgement.ofSites fun _ => rule).IsLocated :=
    .ofSites fun hs _ => h (Program.node_mem_walk_of_mem_sites hs)
  have ownWith {rule : Options → Site → List Finding}
      (h : ∀ {q : Program} {s : Site}, s.node ∈ q.root.walk → ∀ o, AreLocatedIn q (rule o s)) :
      (Judgement.ofSites rule).IsLocated :=
    .ofSites fun hs o => h (Program.node_mem_walk_of_mem_sites hs) o
  have ownReport {rule : Site → Report}
      (h : ∀ {q : Program} {s : Site}, s.node ∈ q.root.walk → AreLocatedIn q (rule s).findings) :
      (Judgement.ofSiteReports rule).IsLocated :=
    .ofSiteReports fun hs => h (Program.node_mem_walk_of_mem_sites hs)
  cases check with
  | moduleName =>
    intro subject memory
    show AreLocatedIn _ (if _ then Report.empty else _).findings
    split
    · exact .nil
    · exact Rules.moduleName_located _ _
  | statementLists => exact own Rules.statementLists_located
  | elementLayout => exact ownReport Rules.elementLayout_located
  | raisedErrors => exact own Rules.raisedErrors_located
  | unwantedStatements => exact own Rules.unwantedStatements_located
  | contextManagers => exact .ofSites fun hs _ => Rules.contextManagers_located hs
  | returnConsistency => exact own Rules.returnConsistency_located
  | returnedVariables => exact .ofSiteReports Rules.returnedVariables_located
  | comprehensions => exact .ofProgram fun _ _ => Rules.comprehensionRules_located
  | loopBodies => exact ownReport Rules.loopBodies_located
  | loopHeads => exact own Rules.loopHeads_located
  | attributeAccess => exact own Rules.attributeAccess_located
  | hintLayout => exact ownReport Rules.hintLayout_located
  | calls => exact .toJudgement Rules.calls_located
  | functionDefinitions => exact own Rules.functionDefinitions_located
  | lambdas => exact own Rules.lambdas_located
  | tryBlocks => exact .toJudgement Rules.tryBlocks_located
  | nestedTryBlocks => exact own Rules.nestedTryBlocks_located
  | imports => exact own Rules.imports_located
  | givenNames => exact ownWith Rules.givenNames_located
  | moduleMetadata => exact own Rules.moduleMetadata_located
  | selfAssignments => exact own Rules.selfAssignments_located
  | unusedVariables => exact .ofSites fun hs _ => Rules.unusedVariables_located hs
  | magicNumbers => exact own Rules.magicNumbers_located
  | formattedTexts => exact own Rules.formattedTexts_located
  | unpacking => exact ownReport Rules.unpacking_located
  | displays => exact .toJudgement Rules.displays_located
  | uselessOperators => exact own Rules.uselessOperators_located
  | wrongOperators => exact own Rules.wrongOperators_located
  | conditionals => exact .toJudgement Rules.conditionals_located
  | comparisons => exact .toJudgement Rules.comparisons_located
  | compareOrder => exact ownReport Rules.compareOrder_located
  | negatedComparisons => exact own Rules.negatedComparisons_located
  | branches => exact .toJudgement Rules.branches_located
  | joinedConditions => exact .toJudgement Rules.joinedConditions_located
  | hiddenExpressions => exact .toJudgement Rules.hiddenExpressions_located
  | classDefinitions => exact own Rules.classDefinitions_located
  | methods => exact own Rules.methods_located
  | slots => exact .toJudgement Rules.slots_located
  | shadowedAttributes => exact own Rules.shadowedAttributes_located
  | methodOrder => exact own Rules.methodOrder_located
  | moduleContents =>
    intro subject memory
    exact AreLocatedIn.flatMap_iff.mpr fun s _ => Rules.moduleContents_located _ _ s
  | magicFunctions => exact own Rules.magicFunctions_located
  | changingConstants => exact own Rules.changingConstants_located
  | boundNames =>
    intro subject memory
    exact Rules.judgeEvents_located fun _ he => Rules.site_mem_of_mem_bindingEvents he
  | usesAfterBlocks =>
    exact .ofProgram fun _ _ =>
      Rules.usesAfterBlocks_located fun _ hs => Program.node_mem_walk_of_mem_sites hs
  | functionSizes => exact .ofProgram fun o _ => Rules.functionSizes_located o
  | lineComplexity => exact .ofProgram fun o _ => Rules.lineComplexity_located o
  | nesting => exact own Rules.nesting_located
  | indentation => exact own Rules.indentation_located
  | importCounts => exact .ofProgram fun o _ => Rules.importCounts_located o
  | memberCounts => exact .ofProgram fun o _ => Rules.memberCounts_located o
  | methodCounts => exact .ofProgram fun o _ => Rules.methodCounts_located o
  | conditionCounts => exact own Rules.conditionCounts_located
  | branchCounts => exact .ofProgram fun _ _ => Rules.branchCounts_located
  | tryCounts => exact ownWith Rules.tryCounts_located
  | yieldedCounts => exact own Rules.yieldedCounts_located
  | baseCounts => exact ownWith Rules.baseCounts_located
  | overusedTexts => exact .ofProgram fun o _ => Rules.overusedTexts_located o
  | overusedExpressions => exact Rules.overusedExpressions_located
  | comments => exact .ofTokens fun _ => Rules.comments_located
  | openingComments => exact .ofTokens fun _ => Rules.openingComments_located
  | keywordSpacing => exact .ofTokens fun _ => Rules.keywordSpacing_located
  | numbers => exact .ofTokens fun _ => Rules.numbers_located
  | strings => exact .ofTokens fun _ => Rules.strings_located
  | adjacentStrings => exact .ofTokens fun _ => Rules.adjacentStrings_located false
  | extraIndentation => exact .ofTokens fun _ => Rules.extraIndentation_located
  | brackets => exact .ofTokens fun _ => Rules.brackets_located
  | elseBranches => exact .ofTokens fun _ => Rules.elseBranches_located

/-! ### Runs -/

namespace Subject

variable (subject : Subject)

theorem examine_located (memory : Memory) (checks : List Check) :
    ∀ report ∈ subject.examine memory checks, AreLocatedIn subject.program report.findings := by
  induction checks generalizing memory with
  | nil => exact List.forall_mem_nil _
  | cons check rest ih =>
    exact List.forall_mem_cons.mpr ⟨check.judge_isLocated subject memory, ih _⟩

/-- The report of a check that does not depend on what is remembered is among the reports. -/
theorem mem_examine_of_forall {subject : Subject} {checks : List Check} {report : Report}
    (check : Check) (hc : check ∈ checks)
    (h : ∀ memory, (check.judge subject memory).1 = report) (memory : Memory) :
    report ∈ subject.examine memory checks := by
  induction checks generalizing memory with
  | nil => cases hc
  | cons other rest ih =>
    rw [examine]
    rcases List.mem_cons.mp hc with rfl | hc
    · rw [← h memory]
      exact List.mem_cons_self
    · exact List.mem_cons_of_mem _ (ih hc _)

end Subject

/-- **Where findings stand.** If lines are counted from one and columns from zero, then no finding
that does not belong to a token stands above the first line; and if one stands left of the margin,
it stands at an asynchronous statement that lacks the room for its word, six columns left of its
place. -/
theorem examineAll_places_of_isPlaced (program : Program) (tokens : List Token) (filename : String)
    (options : Options) (memory : Memory) (h : program.root.IsPlaced) :
    ∀ report ∈ (Subject.prepare program tokens filename options).examineAll memory,
      ∀ f ∈ report.findings, f.violation.describe.anchor ≠ .token →
        0 ≤ f.place.line ∧
          (0 ≤ f.place.column ∨
            ∃ n ∈ program.root.walk,
              n.LacksRoom ∧ n.position = some ⟨f.place.line, f.place.column + 6⟩) := by
  intro report hreport f hf hanchor
  have hlocated := Subject.examine_located _ _ _ report hreport f hf
  rcases hlocated.resolve_left hanchor with hstart | ⟨n, hn, hplace⟩
  · rw [hstart]
    exact ⟨Int.le_refl 0, Or.inl (Int.le_refl 0)⟩
  · have hline : 1 ≤ f.place.line := h.settle_line n hn f.place hplace
    exact ⟨Int.le_trans (by decide) hline, h.settle_column n hn f.place hplace⟩

/-- An asynchronous function inside of a function, indented by two columns. -/
def narrowFunction : Program where
  root :=
    .mk 0 none (.file [
      .mk 1 (some ⟨1, 0⟩) (.functionDef .plain "outer"
        (.mk 2 none (.params [] [] none [] [] none []))
        [.mk 3 (some ⟨2, 2⟩) (.functionDef .async "inner"
          (.mk 4 none (.params [] [] none [] [] none []))
          [.mk 5 (some ⟨3, 4⟩) .passed] [] none)] [] none)])
  distinct := by decide

theorem examineAll_places_narrowFunction :
    narrowFunction.root.IsPlaced ∧
      ∀ report ∈ (Subject.prepare narrowFunction [] "narrow.py" .initial).examineAll,
        ∀ f ∈ report.findings, f.violation.describe.anchor ≠ .token →
          0 ≤ f.place.line ∧
            (0 ≤ f.place.column ∨
              ∃ n ∈ narrowFunction.root.walk,
                n.LacksRoom ∧ n.position = some ⟨f.place.line, f.place.column + 6⟩) := by
  have hplaced : narrowFunction.root.IsPlaced := by decide
  exact ⟨hplaced, examineAll_places_of_isPlaced narrowFunction [] "narrow.py" .initial {} hplaced⟩

/-- The inner function of `narrowFunction` is reported left of the margin. -/
theorem examineAll_leavesMargin :
    narrowFunction.root.IsPlaced ∧
      ∃ report ∈ (Subject.prepare narrowFunction [] "narrow.py" .initial).examineAll,
        ∃ f ∈ report.findings, f.violation.describe.anchor = .node ∧ f.place = ⟨2, -4⟩ := by
  refine ⟨by decide, _, Subject.mem_examine_of_forall .nesting (by decide) (fun _ => rfl) {}, ?_⟩
  show ∃ f ∈ narrowFunction.settle.sites.flatMap Rules.nesting, _
  decide +kernel

end Stricture
