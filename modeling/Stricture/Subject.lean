import Stricture.Finding
import Stricture.Options
import Stricture.Rendering
import Stricture.Scope
import Stricture.Tree.Program

/-!
# Subjects of checks

What checks look at, what they remember from one check to the next, and the ways in which a check
goes over a program.
-/

namespace Stricture

/-- A program text in the forms that checks look at: its tree, its tokens and its file name. -/
structure Subject where
  program : Program
  tokens : List Token
  filename : String
  options : Options

/-- What checks remember: the names bound so far, and which expressions were rendered. Names are
always listed in the same order. -/
structure Memory where
  scopes : Scopes := {}
  rendered : Rendered := {}
  order : NameOrder := .sorted

/-- A check: what it reports about a subject, and what is remembered afterwards. -/
abbrev Judgement := Subject → Memory → Report × Memory

namespace Judgement

/-- A check that remembers nothing. -/
def ofReport (report : Subject → Report) : Judgement := fun subject memory =>
  (report subject, memory)

/-- A check that always comes to its end and remembers nothing. -/
def ofFindings (findings : Subject → List Finding) : Judgement :=
  ofReport fun subject => .ofFindings (findings subject)

/-- A check of every site on its own, in visiting order. -/
def ofSites (rule : Options → Site → List Finding) : Judgement :=
  ofFindings fun subject => subject.program.sites.flatMap (rule subject.options)

/-- A check of every site on its own, in visiting order, up to the first fault. -/
def ofSiteReports (rule : Site → Report) : Judgement :=
  ofReport fun subject => .sequence (subject.program.sites.map rule)

/-- A check of the program as a whole. -/
def ofProgram (rule : Options → Program → List Finding) : Judgement :=
  ofFindings fun subject => rule subject.options subject.program

/-- The name under which a text without a file is checked. -/
def noFile : String :=
  "stdin"

/-- A check of the file name; there is nothing to check if the text has no file. -/
def ofFileName (rule : Options → String → Report) : Judgement :=
  ofReport fun subject =>
    if subject.filename = noFile then .empty else rule subject.options subject.filename

/-- A check that has no rule. -/
def unfinished : Judgement :=
  ofReport fun _ => .stopped .noRule

/-- A check of the tokens. -/
def ofTokens (rule : List Token → Report) : Judgement :=
  ofReport fun subject => rule subject.tokens

end Judgement

/-- What one site has to say to a check that renders expressions: a report, and what was rendered
afterwards. -/
abbrev RenderingRule := Rendered → Site → Report × Rendered

namespace RenderingRule

/-- Goes on only if all of the nodes have a text; otherwise nothing is said but what was found
before. -/
def requiring (seen : Rendered) (sites : List Site) (before : List Finding)
    (result : Report × Rendered) : Report × Rendered :=
  match seen.firstError? sites with
  | some e => (⟨before, some (.rendering e)⟩, seen)
  | none => result

/-- Goes over sites one after the other, up to the first fault. -/
def visit (rule : RenderingRule) : Rendered → List Site → Report × Rendered
  | seen, [] => (.empty, seen)
  | seen, s :: rest =>
    match rule seen s with
    | (⟨findings, some fault⟩, seen') => (⟨findings, some fault⟩, seen')
    | (⟨findings, none⟩, seen') =>
      let (report, seen'') := rule.visit seen' rest
      (⟨findings ++ report.findings, report.fault⟩, seen'')

theorem visit_cons (rule : RenderingRule) (seen : Rendered) (s : Site) (rest : List Site) :
    (rule.visit seen (s :: rest)).1 =
      (rule seen s).1.andThen (rule.visit (rule seen s).2 rest).1 := by
  rw [visit]
  split
  case h_1 h => rw [h]; rfl
  case h_2 h => rw [h]; rfl

theorem rendered_visit_cons {rule : RenderingRule} {seen : Rendered} {s : Site}
    (h : (rule seen s).1.fault = none) (rest : List Site) :
    (rule.visit seen (s :: rest)).2 = (rule.visit (rule seen s).2 rest).2 := by
  rw [visit]
  split
  case h_1 heq =>
    rw [heq] at h
    cases h
  case h_2 heq => rw [heq]

/-- A run over more sites goes on where it was, unless it was stopped. -/
theorem visit_append (rule : RenderingRule) (seen : Rendered) (past rest : List Site) :
    (rule.visit seen (past ++ rest)).1 =
      (rule.visit seen past).1.andThen (rule.visit (rule.visit seen past).2 rest).1 := by
  induction past generalizing seen with
  | nil => rfl
  | cons s past ih =>
    rw [List.cons_append, visit_cons, visit_cons, Report.andThen_assoc]
    cases hs : (rule seen s).1.fault with
    | some fault => rw [Report.andThen_of_fault hs, Report.andThen_of_fault hs]
    | none => rw [ih, rendered_visit_cons hs]

/-- A run comes to its end if the rule does at every site, with what was rendered before it. -/
theorem fault_visit_eq_none_iff {rule : RenderingRule} {seen : Rendered} {sites : List Site} :
    (rule.visit seen sites).1.fault = none ↔ ∀ past s rest, sites = past ++ s :: rest →
      (rule (rule.visit seen past).2 s).1.fault = none := by
  induction sites generalizing seen with
  | nil => simp [visit, Report.empty]
  | cons t sites ih =>
    rw [visit_cons, Report.fault_andThen, Option.or_eq_none_iff, ih]
    constructor
    · rintro ⟨ht, hrest⟩ past s rest hsplit
      rcases List.cons_eq_append_iff.mp hsplit with ⟨rfl, heq⟩ | ⟨past', rfl, heq⟩
      · obtain ⟨rfl, -⟩ := List.cons.inj heq
        exact ht
      · rw [rendered_visit_cons ht]
        exact hrest past' s rest heq
    · intro hall
      have ht : (rule seen t).1.fault = none := hall [] t sites rfl
      refine ⟨ht, fun past s rest hsplit => ?_⟩
      have hs := hall (t :: past) s rest (by rw [hsplit, List.cons_append])
      rwa [rendered_visit_cons ht] at hs

/-- What a run says, the rule says about one of the sites, with what was rendered before it. -/
theorem mem_visit {rule : RenderingRule} {seen : Rendered} {sites : List Site} {f : Finding}
    (h : f ∈ (rule.visit seen sites).1.findings) :
    ∃ past s rest, sites = past ++ s :: rest ∧
      f ∈ (rule (rule.visit seen past).2 s).1.findings := by
  induction sites generalizing seen with
  | nil => exact absurd h List.not_mem_nil
  | cons t sites ih =>
    rw [visit_cons] at h
    cases ht : (rule seen t).1.fault with
    | some fault =>
      rw [Report.andThen_of_fault ht] at h
      exact ⟨[], t, sites, rfl, h⟩
    | none =>
      rcases Report.mem_andThen h with hself | hrest
      · exact ⟨[], t, sites, rfl, hself⟩
      · obtain ⟨past, s, rest, rfl, hf⟩ := ih hrest
        exact ⟨t :: past, s, rest, rfl, by rwa [rendered_visit_cons ht]⟩

/-- A run that nothing stops repeats what the rule says about each of the sites. -/
theorem subset_visit {rule : RenderingRule} {seen : Rendered} {past rest : List Site} {s : Site}
    (hfault : (rule.visit seen (past ++ s :: rest)).1.fault = none) :
    (rule (rule.visit seen past).2 s).1.findings ⊆
      (rule.visit seen (past ++ s :: rest)).1.findings := by
  rw [visit_append, Report.fault_andThen, Option.or_eq_none_iff] at hfault
  obtain ⟨hpast, hrest⟩ := hfault
  rw [visit_cons, Report.fault_andThen, Option.or_eq_none_iff] at hrest
  rw [visit_append, Report.findings_andThen hpast, visit_cons, Report.findings_andThen hrest.1]
  exact List.subset_append_of_subset_right _ (List.subset_append_left _ _)

/-- What stops a run stops the rule at one of the sites, with what was rendered before it. -/
theorem fault_visit {rule : RenderingRule} {seen : Rendered} {sites : List Site} {fault : Fault}
    (h : (rule.visit seen sites).1.fault = some fault) :
    ∃ past s rest, sites = past ++ s :: rest ∧
      (rule (rule.visit seen past).2 s).1.fault = some fault := by
  induction sites generalizing seen with
  | nil => cases h
  | cons t sites ih =>
    rw [visit_cons, Report.fault_andThen, Option.or_eq_some_iff] at h
    rcases h with hself | ⟨ht, hrest⟩
    · exact ⟨[], t, sites, rfl, hself⟩
    · obtain ⟨past, s, rest, rfl, hfault⟩ := ih hrest
      exact ⟨t :: past, s, rest, rfl, by rwa [rendered_visit_cons ht]⟩

/-- Where the rule is stopped, the run ends: nothing after the site is looked at. -/
theorem visit_eq_of_fault {rule : RenderingRule} {seen : Rendered} {past : List Site} {s : Site}
    (h : (rule (rule.visit seen past).2 s).1.fault ≠ none) (rest : List Site) :
    (rule.visit seen (past ++ s :: rest)).1 = (rule.visit seen (past ++ [s])).1 := by
  have hfault : (rule.visit seen (past ++ [s])).1.fault ≠ none := by
    rw [Ne, fault_visit_eq_none_iff]
    exact fun hall => h (hall past s [] rfl)
  obtain ⟨fault, hfault⟩ := Option.ne_none_iff_exists'.mp hfault
  rw [← List.singleton_append, ← List.append_assoc, visit_append, Report.andThen_of_fault hfault]

/-- The rule leaves the printer as it is. -/
def KeepsPrinter (rule : RenderingRule) : Prop :=
  ∀ seen s, (rule seen s).2.printer = seen.printer

/-- Then so does a run. -/
theorem KeepsPrinter.visit {rule : RenderingRule} (h : rule.KeepsPrinter) (seen : Rendered)
    (sites : List Site) : (rule.visit seen sites).2.printer = seen.printer := by
  induction sites generalizing seen with
  | nil => rfl
  | cons s rest ih =>
    cases hs : (rule seen s).1.fault with
    | none => rw [rendered_visit_cons hs, ih, h]
    | some fault =>
      have hstopped : (rule.visit seen (s :: rest)).2 = (rule seen s).2 := by
        rw [RenderingRule.visit]
        split
        case h_1 heq => rw [heq]
        case h_2 heq =>
          rw [heq] at hs
          cases hs
      rw [hstopped, h]

/-- If nothing matters but the printer, a run comes to its end if the rule does at every site. -/
theorem KeepsPrinter.fault_visit_eq_none_iff_forall {rule : RenderingRule}
    (hkeeps : rule.KeepsPrinter) {seen : Rendered} {sites : List Site} {Ends : Site → Prop}
    (h : ∀ s ∈ sites, ∀ later : Rendered, later.printer = seen.printer →
      ((rule later s).1.fault = none ↔ Ends s)) :
    (rule.visit seen sites).1.fault = none ↔ ∀ s ∈ sites, Ends s := by
  rw [fault_visit_eq_none_iff]
  constructor
  · intro hall s hs
    obtain ⟨past, rest, hsplit⟩ := List.append_of_mem hs
    exact (h s hs _ (hkeeps.visit seen past)).mp (hall past s rest hsplit)
  · intro hall past s rest hsplit
    have hs : s ∈ sites := hsplit ▸ List.mem_append_right past List.mem_cons_self
    exact (h s hs _ (hkeeps.visit seen past)).mpr (hall s hs)

/-- A rule that nothing stops says something about one site after the other, with what was rendered
before. -/
theorem exists_said {α : Type} {rule : RenderingRule} {kept : Finding → Bool}
    (said : Rendered → Site → List α) {finding : Site → α → Finding} {sites : List Site}
    {seen : Rendered} (hnodup : sites.Nodup) (hends : (rule.visit seen sites).1.fault = none)
    (hfound : ∀ past s rest, sites = past ++ s :: rest →
      (rule (rule.visit seen past).2 s).1.findings.filter kept =
        (said (rule.visit seen past).2 s).map (finding s)) :
    ∃ reported : Site → List α,
      (∀ past s rest, sites = past ++ s :: rest → reported s = said (rule.visit seen past).2 s) ∧
      (rule.visit seen sites).1.findings.filter kept =
        sites.flatMap fun s => (reported s).map (finding s) := by
  classical
  induction sites generalizing seen with
  | nil => exact ⟨fun _ => [], by simp, rfl⟩
  | cons t sites ih =>
    obtain ⟨ht, hrest⟩ := List.nodup_cons.mp hnodup
    rw [visit_cons, Report.fault_andThen, Option.or_eq_none_iff] at hends
    obtain ⟨hend, hlaterEnds⟩ := hends
    obtain ⟨later, hlater, hfindings⟩ := ih hrest hlaterEnds fun past s rest hsplit => by
      have hsite := hfound (t :: past) s rest (by rw [hsplit, List.cons_append])
      rwa [rendered_visit_cons hend] at hsite
    -- the site does not come again
    have hother {s : Site} (hs : s ∈ sites) : s ≠ t := fun heq => ht (heq ▸ hs)
    refine ⟨fun s => if s = t then said seen t else later s, fun past s rest heq => ?_, ?_⟩
    · rcases List.cons_eq_append_iff.mp heq with ⟨rfl, hcons⟩ | ⟨past', rfl, hpast⟩
      · obtain ⟨rfl, -⟩ := List.cons.inj hcons
        exact if_pos rfl
      · have hs : s ∈ sites := hpast ▸ List.mem_append_right past' List.mem_cons_self
        dsimp only
        rw [if_neg (hother hs), hlater past' s rest hpast, rendered_visit_cons hend]
    · have hself : (rule seen t).1.findings.filter kept = (said seen t).map (finding t) :=
        hfound [] t sites rfl
      rw [visit_cons, Report.findings_andThen hend, List.filter_append, hfindings, hself,
        List.flatMap_cons]
      dsimp only
      rw [if_pos rfl, List.flatMap_def, List.flatMap_def]
      congr 2
      exact List.map_congr_left fun s hs => by rw [if_neg (hother hs)]

/-- A rule that nothing stops, and that says at most one thing of a sort about a site, says it about
some of the sites, in their order: those that pass its test with what was rendered before. -/
theorem exists_reported {rule : RenderingRule} {v : Violation} (test : Rendered → Site → Bool)
    {sites : List Site} {seen : Rendered} (hnodup : sites.Nodup)
    (hends : (rule.visit seen sites).1.fault = none)
    (hreports : ∀ past s rest, sites = past ++ s :: rest →
      (rule (rule.visit seen past).2 s).1.findings.filter (fun f => f.violation = v) =
        reportIf (test (rule.visit seen past).2 s) (v.atNode s.node)) :
    ∃ reported : List Site, reported.Sublist sites ∧
      (∀ past s rest, sites = past ++ s :: rest →
        (s ∈ reported ↔ test (rule.visit seen past).2 s = true)) ∧
      (rule.visit seen sites).1.findings.filter (fun f => f.violation = v) =
        reported.map fun s => v.atNode s.node := by
  have hfound (past : List Site) (s : Site) (rest : List Site)
      (hsplit : sites = past ++ s :: rest) :
      (rule (rule.visit seen past).2 s).1.findings.filter (fun f => f.violation = v) =
        ([test (rule.visit seen past).2 s].filter id).map fun _ => v.atNode s.node := by
    rw [hreports past s rest hsplit]
    cases test (rule.visit seen past).2 s <;> rfl
  obtain ⟨passed, hpassed, hfindings⟩ :=
    exists_said (fun seen s => [test seen s].filter id) hnodup hends hfound
  refine ⟨sites.filter fun s => !(passed s).isEmpty, List.filter_sublist, ?_, ?_⟩
  · intro past s rest hsplit
    have hs : s ∈ sites := hsplit ▸ List.mem_append_right past List.mem_cons_self
    rw [List.mem_filter, hpassed past s rest hsplit]
    cases test (rule.visit seen past).2 s <;> simp [hs]
  · rw [hfindings, ← flatMap_reportIf, List.flatMap_def, List.flatMap_def]
    congr 1
    refine List.map_congr_left fun s hs => ?_
    obtain ⟨past, rest, hsplit⟩ := List.append_of_mem hs
    rw [hpassed past s rest hsplit]
    cases test (rule.visit seen past).2 s <;> rfl

/-- The check that goes over all sites of a program. -/
def toJudgement (rule : RenderingRule) : Judgement := fun subject memory =>
  let (report, seen) := rule.visit memory.rendered subject.program.sites
  (report, { memory with rendered := seen })

end RenderingRule

end Stricture
