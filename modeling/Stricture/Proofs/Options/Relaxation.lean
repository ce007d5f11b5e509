import Mathlib.Algebra.Order.Ring.Unbundled.Rat
import Mathlib.Data.List.Flatten
import Stricture.Check

/-!
# Relaxing the limits

Options relax others if they allow at least as much: every upper limit is as high or higher, names
need not be longer, and the code is under control only if it was before. Then nothing new is found,
and what is still found keeps its order, its place and its text (`results_sublist_of_relaxes`).

Two runs over the same program are compared check by check. A limit is only ever used to leave a
finding out (`overLimit_sublist` and its like), never to choose between findings or to write their
texts; and nothing that is remembered from one check to the next depends on the options.
-/

open scoped List

namespace Stricture

/-! ### Limits -/

namespace Amount

theorem le_refl (a : Amount) : a ≤ a := by
  show ¬ Before a a
  cases a with
  | exact x => exact lt_irrefl x
  | _ => exact id

theorem lt_of_le_of_lt {a b c : Amount} (hab : a ≤ b) (hbc : b < c) : a < c := by
  change ¬ Before b a at hab
  change Before b c at hbc
  show Before a c
  cases c with
  | belowAll => cases b <;> exact hbc.elim
  | aboveAll =>
    cases a with
    | aboveAll => exact absurd hbc hab
    | _ => trivial
  | exact z =>
    cases b with
    | aboveAll => exact hbc.elim
    | belowAll =>
      cases a with
      | belowAll => trivial
      | _ => exact absurd trivial hab
    | exact y =>
      cases a with
      | belowAll => trivial
      | exact x =>
        have hxy : x ≤ y := not_lt.mp hab
        exact hxy.trans_lt hbc
      | aboveAll => exact absurd trivial hab

end Amount

instance : LE Limit := ⟨fun a b => a.amount ≤ b.amount⟩

instance (a b : Limit) : Decidable (a ≤ b) :=
  inferInstanceAs (Decidable (a.amount ≤ b.amount))

namespace Limit

theorem le_refl (a : Limit) : a ≤ a :=
  Amount.le_refl a.amount

theorem lt_amount_of_le {a b : Limit} (h : a ≤ b) {x : Amount} (hx : b.amount < x) :
    a.amount < x :=
  Amount.lt_of_le_of_lt h hx

/-- What is above a limit is above every lower limit. -/
theorem isExceededBy_of_le {a b : Limit} (h : a ≤ b) {count : Nat}
    (hb : b.isExceededBy count = true) : a.isExceededBy count = true := by
  rw [isExceededBy, decide_eq_true_eq] at hb ⊢
  exact lt_amount_of_le h hb

end Limit

/-- The options `b` allow whatever the options `a` allow. -/
structure Options.Relaxes (b a : Options) : Prop where
  minNameLength : b.minNameLength.amount = a.minNameLength.amount
  controlsCode : b.controlsCode.isOn = true → a.controlsCode.isOn = true
  maxNameLength : a.maxNameLength ≤ b.maxNameLength
  maxArguments : a.maxArguments ≤ b.maxArguments
  maxLocalVariables : a.maxLocalVariables ≤ b.maxLocalVariables
  maxReturns : a.maxReturns ≤ b.maxReturns
  maxExpressions : a.maxExpressions ≤ b.maxExpressions
  maxModuleMembers : a.maxModuleMembers ≤ b.maxModuleMembers
  maxMethods : a.maxMethods ≤ b.maxMethods
  maxLineComplexity : a.maxLineComplexity ≤ b.maxLineComplexity
  maxJonesScore : a.maxJonesScore ≤ b.maxJonesScore
  maxImports : a.maxImports ≤ b.maxImports
  maxImportedNames : a.maxImportedNames ≤ b.maxImportedNames
  maxBaseClasses : a.maxBaseClasses ≤ b.maxBaseClasses
  maxDecorators : a.maxDecorators ≤ b.maxDecorators
  maxStringUsages : a.maxStringUsages ≤ b.maxStringUsages
  maxAwaits : a.maxAwaits ≤ b.maxAwaits
  maxTryBodyLength : a.maxTryBodyLength ≤ b.maxTryBodyLength
  maxModuleExpressions : a.maxModuleExpressions ≤ b.maxModuleExpressions
  maxFunctionExpressions : a.maxFunctionExpressions ≤ b.maxFunctionExpressions
  maxAsserts : a.maxAsserts ≤ b.maxAsserts

theorem Options.Relaxes.refl (o : Options) : o.Relaxes o where
  minNameLength := rfl
  controlsCode := id
  maxNameLength := Limit.le_refl _
  maxArguments := Limit.le_refl _
  maxLocalVariables := Limit.le_refl _
  maxReturns := Limit.le_refl _
  maxExpressions := Limit.le_refl _
  maxModuleMembers := Limit.le_refl _
  maxMethods := Limit.le_refl _
  maxLineComplexity := Limit.le_refl _
  maxJonesScore := Limit.le_refl _
  maxImports := Limit.le_refl _
  maxImportedNames := Limit.le_refl _
  maxBaseClasses := Limit.le_refl _
  maxDecorators := Limit.le_refl _
  maxStringUsages := Limit.le_refl _
  maxAwaits := Limit.le_refl _
  maxTryBodyLength := Limit.le_refl _
  maxModuleExpressions := Limit.le_refl _
  maxFunctionExpressions := Limit.le_refl _
  maxAsserts := Limit.le_refl _

namespace Rules

variable {a b : Options}

/-! ### Findings that a limit can leave out -/

theorem ite_singleton_sublist {α : Type} {c d : Prop} [Decidable c] [Decidable d] (h : c → d)
    (x : α) : (if c then [x] else []) <+ (if d then [x] else []) := by
  by_cases hc : c
  · simp [hc, h hc]
  · rw [if_neg hc]
    exact List.nil_sublist _

theorem reportIf_sublist {c d : Bool} (h : c = true → d = true) (f : Finding) :
    reportIf c f <+ reportIf d f :=
  ite_singleton_sublist h f

theorem overLimit_sublist {low high : Limit} (h : low ≤ high) (v : Violation) (n : Node)
    (count : Nat) : overLimit v high n count <+ overLimit v low n count :=
  reportIf_sublist (Limit.isExceededBy_of_le h) _

theorem fileOverLimit_sublist {low high : Limit} (h : low ≤ high) (v : Violation) (count : Nat) :
    fileOverLimit v high count <+ fileOverLimit v low count :=
  reportIf_sublist (Limit.isExceededBy_of_le h) _

/-! ### Names -/

theorem isTooLong_of_le {low high : Limit} (h : low ≤ high) {name : String}
    (hn : Name.isTooLong high.amount name = true) : Name.isTooLong low.amount name = true := by
  rw [Name.isTooLong, decide_eq_true_eq] at hn ⊢
  exact Limit.lt_amount_of_le h hn

theorem lengthViolations_sublist (h : b.Relaxes a) (name : String) :
    lengthViolations b name <+ lengthViolations a name := by
  unfold lengthViolations
  rw [h.minNameLength]
  apply (List.Sublist.refl _).append
  exact ite_singleton_sublist (isTooLong_of_le h.maxNameLength) _

theorem nameFindings_sublist (h : b.Relaxes a) (n : Node) (isFirst : Bool) (name : String) :
    nameFindings b n isFirst name <+ nameFindings a n isFirst name := by
  have hviolations : nameViolations b isFirst name <+ nameViolations a isFirst name :=
    ((List.Sublist.refl _).append (lengthViolations_sublist h name)).append (List.Sublist.refl _)
  exact hviolations.map _

theorem parameterNames_sublist (h : b.Relaxes a) (g : Signature) :
    parameterNames b g <+ parameterNames a g :=
  List.Sublist.flatMap_right _ fun p _ => nameFindings_sublist h p _ _

theorem getD_map_sublist {α β : Type} {f g : α → List β} (h : ∀ x, f x <+ g x) (x? : Option α) :
    (x?.map f).getD [] <+ (x?.map g).getD [] := by
  cases x? with
  | none => exact List.Sublist.refl _
  | some x => exact h x

theorem givenNames_sublist (h : b.Relaxes a) (s : Site) : givenNames b s <+ givenNames a s := by
  unfold givenNames
  dsimp only
  split
  case h_1 => exact (List.Sublist.refl _).append (nameFindings_sublist h _ _ _)
  case h_2 =>
    exact (nameFindings_sublist h _ _ _).append (getD_map_sublist (parameterNames_sublist h) _)
  case h_3 => exact getD_map_sublist (parameterNames_sublist h) _
  case h_4 | h_5 =>
    apply List.Sublist.flatMap_right
    intro imported _
    split
    · split
      · exact List.Sublist.refl _
      · exact nameFindings_sublist h _ _ _
    · exact List.Sublist.refl _
  case h_6 => exact getD_map_sublist (nameFindings_sublist h _ _) _

theorem moduleName_sublist (h : b.Relaxes a) (filename : String) :
    moduleName b filename <+ moduleName a filename := by
  have hviolations (stem : String) :
      moduleNameViolations b stem <+ moduleNameViolations a stem := by
    unfold moduleNameViolations
    rw [h.minNameLength]
    -- Only the violation for the upper limit of the length can be missing.
    refine ((List.Sublist.append (List.Sublist.refl _) ?_).append (List.Sublist.refl _)).append
      (List.Sublist.refl _)
    exact ite_singleton_sublist (isTooLong_of_le h.maxNameLength) _
  exact (hviolations _).map _

/-! ### Modules -/

theorem moduleContents_sublist (h : b.Relaxes a) (filename : String) (s : Site) :
    moduleContents b filename s <+ moduleContents a filename s := by
  unfold moduleContents
  split
  · split
    · apply reportIf_sublist
      intro hb
      rw [Bool.and_eq_true] at hb ⊢
      exact ⟨h.controlsCode hb.1, hb.2⟩
    · exact List.Sublist.refl _
  · exact List.Sublist.refl _

/-! ### Size and complexity -/

theorem FunctionMeasure.limit_le (h : b.Relaxes a) (m : FunctionMeasure) :
    m.limit a ≤ m.limit b := by
  cases m with
  | arguments => exact h.maxArguments
  | returns => exact h.maxReturns
  | awaits => exact h.maxAwaits
  | asserts => exact h.maxAsserts
  | locals => exact h.maxLocalVariables
  | expressions => exact h.maxExpressions

theorem functionSizes_sublist (h : b.Relaxes a) (sites : List Site) :
    functionSizes b sites <+ functionSizes a sites := by
  apply List.Sublist.flatMap_right
  intro m _
  apply List.Sublist.flatMap_right
  intro s _
  exact overLimit_sublist (m.limit_le h) _ _ _

theorem lineComplexity_sublist (h : b.Relaxes a) (sites : List Site) :
    lineComplexity b sites <+ lineComplexity a sites := by
  apply List.Sublist.append
  · apply List.Sublist.flatMap_right
    rintro ⟨_, line⟩ _
    apply List.Sublist.flatMap_right
    intro first _
    exact reportIf_sublist (Limit.isExceededBy_of_le h.maxLineComplexity) _
  · apply reportIf_sublist
    intro hb
    rw [decide_eq_true_eq] at hb ⊢
    exact Limit.lt_amount_of_le h.maxJonesScore hb

theorem importCounts_sublist (h : b.Relaxes a) (sites : List Site) :
    importCounts b sites <+ importCounts a sites :=
  (fileOverLimit_sublist h.maxImports _ _).append (fileOverLimit_sublist h.maxImportedNames _ _)

theorem memberCounts_sublist (h : b.Relaxes a) (sites : List Site) :
    memberCounts b sites <+ memberCounts a sites := by
  apply List.Sublist.append
  · apply List.Sublist.flatMap_right
    intro s _
    exact overLimit_sublist h.maxDecorators _ _ _
  · exact fileOverLimit_sublist h.maxModuleMembers _ _

theorem methodCounts_sublist (h : b.Relaxes a) (sites : List Site) :
    methodCounts b sites <+ methodCounts a sites := by
  apply List.Sublist.flatMap_right
  rintro ⟨_, group⟩ _
  apply List.Sublist.flatMap_right
  intro cls _
  exact overLimit_sublist h.maxMethods _ _ _

theorem baseCounts_sublist (h : b.Relaxes a) (s : Site) : baseCounts b s <+ baseCounts a s := by
  unfold baseCounts
  split
  · exact overLimit_sublist h.maxBaseClasses _ _ _
  · exact List.Sublist.refl _

theorem tryCounts_sublist (h : b.Relaxes a) (s : Site) : tryCounts b s <+ tryCounts a s := by
  unfold tryCounts
  split
  · exact (List.Sublist.refl _).append (overLimit_sublist h.maxTryBodyLength _ _ _)
  · exact List.Sublist.refl _

theorem overusedTexts_sublist (h : b.Relaxes a) (sites : List Site) :
    overusedTexts b sites <+ overusedTexts a sites := by
  apply List.Sublist.flatMap_right
  rintro ⟨t, uses⟩ _
  exact reportIf_sublist (Limit.isExceededBy_of_le h.maxStringUsages) _

theorem overLimitUses_sublist {low high : Limit} (h : low ≤ high) (uses : List RenderedUse) :
    overLimitUses high uses <+ overLimitUses low uses := by
  apply List.Sublist.flatMap_right
  rintro ⟨text, group⟩ _
  apply List.Sublist.flatMap_right
  intro first _
  exact reportIf_sublist (Limit.isExceededBy_of_le h) _

theorem overusedIn_sublist (h : b.Relaxes a) (uses : List RenderedUse) :
    overusedIn b uses <+ overusedIn a uses := by
  apply List.Sublist.append
  · exact overLimitUses_sublist h.maxModuleExpressions uses
  · apply List.Sublist.flatMap_right
    intro group _
    exact overLimitUses_sublist h.maxFunctionExpressions group.2

end Rules

/-! ### Checks -/

/-- A report that says what another one says, some findings apart. -/
structure Report.Within (r s : Report) : Prop where
  findings : r.findings <+ s.findings
  fault : r.fault = s.fault

/-- A check that says no more if options are relaxed, and remembers the same. -/
def Judgement.IsMonotone (judge : Judgement) : Prop :=
  ∀ (subject : Subject) (relaxed : Options), relaxed.Relaxes subject.options → ∀ memory,
    (judge { subject with options := relaxed } memory).1.Within (judge subject memory).1 ∧
      (judge { subject with options := relaxed } memory).2 = (judge subject memory).2

namespace Judgement.IsMonotone

theorem of_ignoring {judge : Judgement}
    (h : ∀ subject o memory, judge { subject with options := o } memory = judge subject memory) :
    judge.IsMonotone := by
  intro subject relaxed _ memory
  rw [h]
  exact ⟨⟨List.Sublist.refl _, rfl⟩, rfl⟩

theorem ofReport {report : Subject → Report}
    (h : ∀ (subject : Subject) (relaxed : Options), relaxed.Relaxes subject.options →
      (report { subject with options := relaxed }).Within (report subject)) :
    (Judgement.ofReport report).IsMonotone :=
  fun subject relaxed hr _ => ⟨h subject relaxed hr, rfl⟩

theorem ofFindings {findings : Subject → List Finding}
    (h : ∀ (subject : Subject) (relaxed : Options), relaxed.Relaxes subject.options →
      findings { subject with options := relaxed } <+ findings subject) :
    (Judgement.ofFindings findings).IsMonotone :=
  ofReport fun subject relaxed hr => ⟨h subject relaxed hr, rfl⟩

theorem ofSites {rule : Options → Site → List Finding}
    (h : ∀ {a b : Options}, b.Relaxes a → ∀ s, rule b s <+ rule a s) :
    (Judgement.ofSites rule).IsMonotone :=
  ofFindings fun _ _ hr => List.Sublist.flatMap_right _ fun s _ => h hr s

theorem ofProgram {rule : Options → List Site → List Finding}
    (h : ∀ {a b : Options}, b.Relaxes a → ∀ sites, rule b sites <+ rule a sites) :
    (Judgement.ofProgram fun o p => rule o p.sites).IsMonotone :=
  ofFindings fun subject _ hr => h hr subject.program.sites

theorem ofFileName {rule : Options → String → List Finding}
    (h : ∀ {a b : Options}, b.Relaxes a → ∀ name, rule b name <+ rule a name) :
    (Judgement.ofFileName fun o name => .ofFindings (rule o name)).IsMonotone := by
  apply ofReport
  intro subject relaxed hr
  dsimp only
  split
  · exact ⟨List.Sublist.refl _, rfl⟩
  · exact ⟨h hr subject.filename, rfl⟩

end Judgement.IsMonotone

theorem Rules.overusedExpressions_isMonotone : overusedExpressions.IsMonotone := by
  intro subject relaxed hr memory
  -- Whether there is a fault, and what was rendered, is decided before limits are looked at.
  refine ⟨?_, rfl⟩
  unfold overusedExpressions
  dsimp only
  split
  · exact ⟨List.Sublist.refl _, rfl⟩
  · exact ⟨overusedIn_sublist hr _, rfl⟩

/-- Every check is monotone: those named here look at limits, the others at no options. -/
theorem Check.judge_isMonotone (check : Check) : check.judge.IsMonotone := by
  cases check with
  | moduleName => exact .ofFileName Rules.moduleName_sublist
  | givenNames => exact .ofSites Rules.givenNames_sublist
  | moduleContents =>
    apply Judgement.IsMonotone.ofFindings
    intro subject relaxed hr
    exact List.Sublist.flatMap_right _ fun s _ =>
      Rules.moduleContents_sublist hr subject.filename s
  | functionSizes => exact .ofProgram Rules.functionSizes_sublist
  | lineComplexity => exact .ofProgram Rules.lineComplexity_sublist
  | importCounts => exact .ofProgram Rules.importCounts_sublist
  | memberCounts => exact .ofProgram Rules.memberCounts_sublist
  | methodCounts => exact .ofProgram Rules.methodCounts_sublist
  | tryCounts => exact .ofSites Rules.tryCounts_sublist
  | baseCounts => exact .ofSites Rules.baseCounts_sublist
  | overusedTexts => exact .ofProgram Rules.overusedTexts_sublist
  | overusedExpressions => exact Rules.overusedExpressions_isMonotone
  | _ => exact .of_ignoring fun _ _ _ => rfl

/-! ### Runs -/

namespace Subject

/-- What is shown to users: the places and texts of all findings, check by check. -/
def results (subject : Subject) (memory : Memory) : List (Position × String) :=
  (subject.examineAll memory).flatMap fun report =>
    report.findings.map fun f => (f.place, f.message)

theorem examine_within (subject : Subject) (relaxed : Options)
    (h : relaxed.Relaxes subject.options) (memory : Memory) (checks : List Check) :
    List.Forall₂ Report.Within ({ subject with options := relaxed }.examine memory checks)
      (subject.examine memory checks) := by
  induction checks generalizing memory with
  | nil => exact List.Forall₂.nil
  | cons check rest ih =>
    obtain ⟨hreport, hmemory⟩ := check.judge_isMonotone subject relaxed h memory
    -- Both runs go on from the same memory.
    unfold examine
    dsimp only
    rw [hmemory]
    exact List.Forall₂.cons hreport (ih _)

end Subject

theorem flatMap_sublist_of_within {α : Type} (f : Finding → α) {rs ss : List Report}
    (h : List.Forall₂ Report.Within rs ss) :
    (rs.flatMap fun r => r.findings.map f) <+ (ss.flatMap fun s => s.findings.map f) := by
  induction h with
  | nil => exact List.Sublist.refl _
  | cons hr _ ih =>
    rw [List.flatMap_cons, List.flatMap_cons]
    exact (hr.findings.map f).append ih

/-- **Relaxed options find nothing new.** What is shown under relaxed options is shown under the
others, in the same order, at the same places and in the same words; so it is for every single
check, and each check stops at the same fault, if at any. It does not matter what is remembered from
before, or how expressions are printed. -/
theorem results_sublist_of_relaxes (program : Program) (tokens : List Token) (filename : String)
    (a b : Options) (h : b.Relaxes a) (memory : Memory) :
    (Subject.prepare program tokens filename b).results memory <+
        (Subject.prepare program tokens filename a).results memory ∧
      List.Forall₂ Report.Within ((Subject.prepare program tokens filename b).examineAll memory)
        ((Subject.prepare program tokens filename a).examineAll memory) := by
  have hrun : List.Forall₂ Report.Within
      ((Subject.prepare program tokens filename b).examineAll memory)
      ((Subject.prepare program tokens filename a).examineAll memory) :=
    (Subject.prepare program tokens filename a).examine_within b h memory Check.all
  exact ⟨flatMap_sublist_of_within _ hrun, hrun⟩

/-- A class with four bases, one more than the initial limit. -/
def fourBases : Program where
  root :=
    .mk 0 none (.file [
      .mk 1 (some ⟨1, 0⟩) (.classDef "Point" [
        .mk 2 (some ⟨1, 12⟩) (.name "Left" (some .load)),
        .mk 3 (some ⟨1, 18⟩) (.name "Right" (some .load)),
        .mk 4 (some ⟨1, 25⟩) (.name "Upper" (some .load)),
        .mk 5 (some ⟨1, 32⟩) (.name "Lower" (some .load))] []
        [.mk 6 (some ⟨2, 4⟩) .passed] [])])
  distinct := by decide

/-- The initial options, but with one more base. -/
def Options.moreBases : Options :=
  { Options.initial with maxBaseClasses := ⟨.whole 4, .ofInt 4, rfl, by decide +kernel⟩ }

theorem Options.relaxes_of_maxBaseClasses_le (o : Options) {limit : Limit}
    (h : o.maxBaseClasses ≤ limit) : { o with maxBaseClasses := limit }.Relaxes o :=
  { Relaxes.refl o with maxBaseClasses := h }

theorem Options.moreBases_relaxes : moreBases.Relaxes initial :=
  relaxes_of_maxBaseClasses_le initial (by decide +kernel)

theorem results_sublist_fourBases :
    (Options.moreBases.Relaxes .initial ∧
      (fourBases.settle.sites.flatMap (Rules.baseCounts .moreBases)).length = 0 ∧
      (fourBases.settle.sites.flatMap (Rules.baseCounts .initial)).length = 1) ∧
    (Subject.prepare fourBases [] "point.py" .moreBases).results {} <+
      (Subject.prepare fourBases [] "point.py" .initial).results {} ∧
    List.Forall₂ Report.Within (Subject.prepare fourBases [] "point.py" .moreBases).examineAll
      (Subject.prepare fourBases [] "point.py" .initial).examineAll :=
  ⟨⟨Options.moreBases_relaxes, by decide +kernel, by decide +kernel⟩,
    results_sublist_of_relaxes fourBases [] "point.py" .initial .moreBases
      Options.moreBases_relaxes {}⟩

end Stricture
