import Mathlib.Data.List.Flatten
import Stricture.Proofs.Place.Located
import Stricture.Proofs.Tree.Order

/-!
# Conditions that are joined twice

A joined condition is made of the conditions to which its values lead, through joined conditions
right below it. The check takes an outermost one apart and compares the texts of its conditions.
What is joined inside of a call or a comparison is an outermost one again.

Which joined conditions are outermost can be told in two ways: from what stands above, as the check
does, or by remembering all that was taken apart before. A joined condition is visited after
everything that it is a part of, so both ways lead to the same reports
(`ConditionRun.Records.toEnd`).
-/

namespace Stricture

open Rules

/-! ### The parts of a joined condition -/

/-- `t` is a value of the joined condition `s`. -/
def Site.HasOperand (s t : Site) : Prop :=
  s.node.kind = .boolean ∧ t ∈ s.children

/-- `t` is one of the conditions that are joined at `s`, through joined conditions only. -/
def Site.HasCondition (s t : Site) : Prop :=
  Relation.ReflTransGen Site.HasOperand s t ∧ t.node.kind ≠ .boolean

/-- Two of the conditions that are joined at `s` have one text. -/
def Site.RepeatsCondition (text : Site → String) (s : Site) : Prop :=
  ∃ t u, t ≠ u ∧ s.HasCondition t ∧ s.HasCondition u ∧ text t = text u

mutual

/-- A condition, and what it is made of if others are joined in it. -/
def joinedParts (above : List Node) : Node → List Site
  | .mk id position (.boolean op values) =>
    ⟨.mk id position (.boolean op values), above⟩ ::
      partsOfAll (.mk id position (.boolean op values) :: above) values
  | n => [⟨n, above⟩]

/-- The parts of several conditions. -/
def partsOfAll (above : List Node) : List Node → List Site
  | [] => []
  | n :: rest => joinedParts above n ++ partsOfAll above rest

end

theorem partsOfAll_eq_flatMap (above : List Node) (ns : List Node) :
    partsOfAll above ns = ns.flatMap (joinedParts above) := by
  induction ns with
  | nil => rfl
  | cons n rest ih => rw [partsOfAll, ih, List.flatMap_cons]

theorem leavesOfAll_eq_flatMap (above : List Node) (ns : List Node) :
    leavesOfAll above ns = ns.flatMap (conditionLeaves above) := by
  induction ns with
  | nil => rfl
  | cons n rest ih => rw [leavesOfAll, ih, List.flatMap_cons]

theorem countAllConditions_eq_totalOf (ns : List Node) :
    countAllConditions ns = totalOf countConditions ns := by
  induction ns with
  | nil => rfl
  | cons n rest ih =>
    rw [countAllConditions, ih]
    rfl

theorem Node.exists_boolean {n : Node} (h : n.kind = .boolean) :
    ∃ op values, n.shape = .boolean op values := by
  obtain ⟨id, position, shape⟩ := n
  cases shape with
  | boolean op values => exact ⟨op, values, rfl⟩
  | functionDef mode | forLoop mode | withBlock mode => cases mode <;> cases h
  | _ => cases h

namespace Site

variable {s t u : Site} {q : Program}

/-- A joined condition is taken apart value by value. -/
theorem unfold_of_boolean (h : s.node.kind = .boolean) :
    joinedParts s.above s.node =
        s :: s.children.flatMap (fun c => joinedParts c.above c.node) ∧
      conditionLeaves s.above s.node =
        s.children.flatMap (fun c => conditionLeaves c.above c.node) ∧
      countConditions s.node = totalOf (fun c => countConditions c.node) s.children := by
  obtain ⟨op, values, hshape⟩ := Node.exists_boolean h
  obtain ⟨⟨id, position, shape⟩, above⟩ := s
  obtain rfl : shape = .boolean op values := hshape
  have hchildren : Site.children ⟨.mk id position (.boolean op values), above⟩ =
      values.map (Site.under ⟨.mk id position (.boolean op values), above⟩) := rfl
  refine ⟨?_, ?_, ?_⟩
  · rw [joinedParts, partsOfAll_eq_flatMap, hchildren, List.flatMap_map]
    rfl
  · rw [conditionLeaves, leavesOfAll_eq_flatMap, hchildren, List.flatMap_map]
    rfl
  · rw [countConditions, countAllConditions_eq_totalOf, hchildren, totalOf, totalOf,
      List.foldr_map]
    rfl

/-- Any other condition is the only part of itself. -/
theorem unfold_of_not_boolean (h : s.node.kind ≠ .boolean) :
    joinedParts s.above s.node = [s] ∧ conditionLeaves s.above s.node = [s] ∧
      countConditions s.node = 1 := by
  obtain ⟨⟨id, position, shape⟩, above⟩ := s
  cases shape with
  | boolean => exact absurd rfl h
  | _ => exact ⟨rfl, rfl, rfl⟩

theorem mem_joinedParts_iff :
    t ∈ joinedParts s.above s.node ↔ Relation.ReflTransGen HasOperand s t := by
  induction s using childInduction with
  | step s ih =>
    rw [Relation.ReflTransGen.cases_head_iff]
    by_cases hkind : s.node.kind = .boolean
    · rw [(unfold_of_boolean hkind).1, List.mem_cons, List.mem_flatMap, eq_comm]
      refine or_congr_right (exists_congr fun c => ?_)
      rw [HasOperand, and_iff_right hkind]
      exact and_congr_right fun hc => ih c hc
    · rw [(unfold_of_not_boolean hkind).1, List.mem_singleton, eq_comm, or_iff_left]
      rintro ⟨c, hc, -⟩
      exact hkind hc.1

/-- The conditions that are joined are the parts in which nothing is joined any more. -/
theorem conditionLeaves_eq_filter (s : Site) :
    conditionLeaves s.above s.node =
      (joinedParts s.above s.node).filter fun t => t.node.kind != .boolean := by
  induction s using childInduction with
  | step s ih =>
    by_cases hkind : s.node.kind = .boolean
    · rw [(unfold_of_boolean hkind).1, (unfold_of_boolean hkind).2.1,
        List.filter_cons_of_neg (by simp [hkind]), List.filter_flatMap]
      exact List.flatMap_congr ih
    · rw [(unfold_of_not_boolean hkind).1, (unfold_of_not_boolean hkind).2.1]
      simp [hkind]

theorem mem_conditionLeaves_iff : t ∈ conditionLeaves s.above s.node ↔ s.HasCondition t := by
  rw [conditionLeaves_eq_filter, List.mem_filter, mem_joinedParts_iff, bne_iff_ne]
  rfl

/-- **As many conditions as are counted.** -/
theorem length_conditionLeaves (s : Site) :
    (conditionLeaves s.above s.node).length = countConditions s.node := by
  induction s using childInduction with
  | step s ih =>
    by_cases hkind : s.node.kind = .boolean
    · rw [(unfold_of_boolean hkind).2.1, (unfold_of_boolean hkind).2.2, length_flatMap_eq_totalOf]
      exact totalOf_congr ih
    · rw [(unfold_of_not_boolean hkind).2.1, (unfold_of_not_boolean hkind).2.2]
      rfl

theorem joinedParts_sublist_visit (s : Site) : (joinedParts s.above s.node).Sublist s.visit := by
  induction s using childInduction with
  | step s ih =>
    rw [visit_eq]
    by_cases hkind : s.node.kind = .boolean
    · rw [(unfold_of_boolean hkind).1]
      exact (List.Sublist.flatMap_right s.children ih).cons_cons s
    · rw [(unfold_of_not_boolean hkind).1]
      exact (List.nil_sublist _).cons_cons s

end Site

namespace Program

variable {q : Program} {s t : Site} {text : Site → String}

theorem nodup_conditionLeaves (hs : s ∈ q.walk) : (conditionLeaves s.above s.node).Nodup := by
  rw [s.conditionLeaves_eq_filter]
  exact (s.joinedParts_sublist_visit.nodup (nodup_visit hs)).filter _

/-- A text occurs twice exactly if two different conditions have it. -/
theorem hasRepetition_conditionLeaves_iff (hs : s ∈ q.walk) :
    hasRepetition ((conditionLeaves s.above s.node).map text) = true ↔
      s.RepeatsCondition text := by
  rw [hasRepetition_iff, List.nodup_map_iff_inj_on (nodup_conditionLeaves hs)]
  simp only [Site.mem_conditionLeaves_iff]
  push Not
  constructor
  · rintro ⟨t, ht, u, hu, htext, hne⟩
    exact ⟨t, u, hne, ht, hu, htext⟩
  · rintro ⟨t, u, hne, ht, hu, htext⟩
    exact ⟨t, ht, u, hu, htext, hne⟩

end Program

/-! ### Outermost conditions -/

/-- A joined condition that is no value of another one. -/
def Program.IsOutermost (q : Program) (s : Site) : Prop :=
  s.node.kind = .boolean ∧ ∀ p ∈ q.root.walk, s.node ∈ p.children → p.kind ≠ .boolean

namespace Program

variable {q : Program} {r s t : Site}

theorem isOutermost_iff (hs : s ∈ q.walk) :
    q.IsOutermost s ↔ s.node.kind = .boolean ∧ s.parentIsAny [.boolean] = false := by
  refine and_congr_right fun _ => ?_
  rw [Site.parentIsAny, Option.any_eq_false]
  constructor
  · intro h p hp
    have hparent := (parent?_eq_some_iff hs).mp (congrArg (Option.map Site.node) hp)
    simpa [Node.isAny] using h p.node hparent.1 hparent.2
  · intro h p hp hchild
    obtain ⟨p', hp', rfl⟩ := Option.map_eq_some_iff.mp ((parent?_eq_some_iff hs).mpr ⟨hp, hchild⟩)
    simpa [Node.isAny] using h p' hp'

/-- What is joined is below. -/
theorem reflTransGen_hasChild (h : Relation.ReflTransGen Site.HasOperand r s) :
    Relation.ReflTransGen Site.HasChild r s :=
  Relation.ReflTransGen.mono (fun _ _ hoperand => hoperand.2) r s h

theorem mem_walk_of_hasOperand (hr : r ∈ q.walk) (h : Relation.ReflTransGen Site.HasOperand r s) :
    s ∈ q.walk :=
  mem_walk_of_mem_site_walk hr (Site.mem_walk_iff.mpr (reflTransGen_hasChild h))

/-- An outermost condition is a part of itself only. -/
theorem IsOutermost.eq_of_reflTransGen (hs : q.IsOutermost s) (hr : r ∈ q.walk)
    (h : Relation.ReflTransGen Site.HasOperand r s) : r = s := by
  rcases h.cases_tail with rfl | ⟨p, hp, hoperand⟩
  · rfl
  · obtain ⟨c, hc, rfl⟩ := List.mem_map.mp hoperand.2
    exact absurd hoperand.1 (hs.2 p.node (node_mem_walk (mem_walk_of_hasOperand hr hp)) hc)

/-- Every joined condition is a part of an outermost one. -/
theorem exists_isOutermost (hs : s ∈ q.walk) (hkind : s.node.kind = .boolean) :
    ∃ r ∈ q.walk, q.IsOutermost r ∧ Relation.ReflTransGen Site.HasOperand r s := by
  -- going up from one joined condition to the next leads to the ancestors
  obtain ⟨n, above⟩ := s
  induction above generalizing n with
  | nil => exact ⟨⟨n, []⟩, hs, (isOutermost_iff hs).mpr ⟨hkind, rfl⟩, .refl⟩
  | cons p rest ih =>
    obtain ⟨hp, hchild⟩ := parent_mem_walk hs
    by_cases hjoined : p.kind = .boolean
    · obtain ⟨r, hr, houtermost, hreach⟩ := ih p hp hjoined
      exact ⟨r, hr, houtermost, hreach.tail ⟨hjoined, List.mem_map_of_mem hchild⟩⟩
    · refine ⟨⟨n, p :: rest⟩, hs, (isOutermost_iff hs).mpr ⟨hkind, ?_⟩, .refl⟩
      simpa [Site.parentIsAny, Site.parent?, Node.isAny] using hjoined

end Program

/-! ### Remembering what was taken apart -/

/-- What a run remembers: the joined conditions that it has taken apart, and what it reports. -/
structure ConditionRun where
  taken : List Site := []
  reported : List Site := []

/-- One more site. A joined condition that was not met as a part before is taken apart. -/
def ConditionRun.step (text : Site → String) (run : ConditionRun) (s : Site) : ConditionRun :=
  if s.node.kind = .boolean ∧ !run.taken.any (fun t => t.node.is s.node) then
    { taken := run.taken ++
        (joinedParts s.above s.node).filter fun t => t.node.kind == .boolean
      reported := run.reported ++
        [s].filter fun s => hasRepetition ((conditionLeaves s.above s.node).map text) }
  else run

open Classical in
/-- What is known after the sites that are behind: the parts of the outermost conditions among them,
and which of these repeat a condition. -/
structure ConditionRun.Records (q : Program) (text : Site → String) (past : List Site)
    (run : ConditionRun) : Prop where
  taken : ∀ t, t ∈ run.taken ↔ t.node.kind = .boolean ∧
    ∃ r ∈ past, q.IsOutermost r ∧ Relation.ReflTransGen Site.HasOperand r t
  reported : run.reported = past.filter fun s => q.IsOutermost s ∧ s.RepeatsCondition text

namespace ConditionRun

variable {q : Program} {text : Site → String} {past rest : List Site} {s : Site}
  {run : ConditionRun}

/-- **Only outermost conditions are not remembered** when they are visited. -/
theorem Records.any_is_iff (h : Records q text past run) (hq : q.sites = past ++ s :: rest)
    (hkind : s.node.kind = .boolean) :
    run.taken.any (fun t => t.node.is s.node) = true ↔ ¬ q.IsOutermost s := by
  have hs := Program.mem_walk_of_sites_eq hq
  rw [List.any_eq_true]
  constructor
  · rintro ⟨t, ht, his⟩ houtermost
    obtain ⟨-, r, hr, -, hreach⟩ := (h.taken t).mp ht
    have hr' := Program.mem_walk_of_mem_past hq hr
    obtain rfl := Program.eq_of_id_eq (Program.mem_walk_of_hasOperand hr' hreach) hs
      (Node.is_iff.mp his)
    -- so it has been visited itself, which happens only once
    obtain rfl := houtermost.eq_of_reflTransGen hr' hreach
    exact Program.node_ne_of_mem_past hq hr rfl
  · intro hinner
    obtain ⟨r, hr, houtermost, hreach⟩ := Program.exists_isOutermost hs hkind
    refine ⟨s, (h.taken s).mpr ⟨hkind, r, ?_, houtermost, hreach⟩, Node.is_iff.mpr rfl⟩
    rcases Relation.reflTransGen_iff_eq_or_transGen.mp (Program.reflTransGen_hasChild hreach) with
      rfl | hbelow
    · exact absurd houtermost hinner
    · rw [← Program.precedes_iff_mem hq]
      exact Program.precedes_of_transGen (Program.mem_walk_iff_mem_sites.mp hr) hbelow

/-- A site that is no outermost condition changes nothing. -/
theorem Records.skip (h : Records q text past run) (hq : q.sites = past ++ s :: rest)
    (hinner : ¬ q.IsOutermost s) : Records q text (past ++ [s]) (run.step text s) := by
  have hstep : run.step text s = run := by
    refine if_neg fun hnew => ?_
    rw [(h.any_is_iff hq hnew.1).mpr hinner] at hnew
    cases hnew.2
  rw [hstep]
  constructor
  · intro t
    rw [h.taken]
    simp [or_and_right, exists_or, hinner]
  · simp [h.reported, hinner]

/-- An outermost condition is taken apart. -/
theorem Records.takeApart (h : Records q text past run) (hq : q.sites = past ++ s :: rest)
    (houtermost : q.IsOutermost s) : Records q text (past ++ [s]) (run.step text s) := by
  classical
  have hs := Program.mem_walk_of_sites_eq hq
  have hnew : ¬ run.taken.any (fun t => t.node.is s.node) = true := fun hany =>
    (h.any_is_iff hq houtermost.1).mp hany houtermost
  have htest : s.node.kind = .boolean ∧ (!run.taken.any (fun t => t.node.is s.node)) = true :=
    ⟨houtermost.1, by simpa using hnew⟩
  rw [step, if_pos htest]
  constructor
  · intro t
    dsimp only
    rw [List.mem_append, h.taken, List.mem_filter, Site.mem_joinedParts_iff, beq_iff_eq]
    simp only [List.mem_append, List.mem_singleton, or_and_right, exists_or, exists_eq_left,
      houtermost, true_and]
    rw [and_or_left]
    exact or_congr_right and_comm
  · dsimp only
    have hrepeats : hasRepetition ((conditionLeaves s.above s.node).map text) = true ↔
        s.RepeatsCondition text := Program.hasRepetition_conditionLeaves_iff hs
    rw [h.reported, List.filter_append]
    congr 1
    refine List.filter_congr fun u hu => ?_
    obtain rfl := List.mem_singleton.mp hu
    rw [Bool.eq_iff_iff, hrepeats, decide_eq_true_eq, and_iff_right houtermost]

theorem Records.step (h : Records q text past run) (hq : q.sites = past ++ s :: rest) :
    Records q text (past ++ [s]) (run.step text s) := by
  by_cases houtermost : q.IsOutermost s
  · exact h.takeApart hq houtermost
  · exact h.skip hq houtermost

/-- **A run that remembers** knows of all the sites that are behind. -/
theorem Records.toEnd (h : Records q text past run) (hq : q.sites = past ++ rest) :
    Records q text q.sites (rest.foldl (ConditionRun.step text) run) := by
  induction rest generalizing past run with
  | nil =>
    rw [hq, List.append_nil]
    exact h
  | cons s rest ih =>
    rw [List.foldl_cons]
    exact ih (h.step hq) (by rw [hq, List.append_assoc, List.singleton_append])

end ConditionRun

/-! ### The whole check -/

/-- If conditions are joined at the node, those that join no others have texts. -/
def Node.HasConditionTexts (n : Node) (printer : Printer) : Prop :=
  n.kind = .boolean → ∀ c ∈ n.children, c.kind ≠ .boolean → printer.Writes c

namespace Program

variable {q : Program} {s t : Site} {seen : Rendered}

theorem outermostLeaves_of_isOutermost (hs : s ∈ q.walk) (h : q.IsOutermost s) :
    outermostLeaves s = conditionLeaves s.above s.node := by
  rw [isOutermost_iff hs] at h
  exact if_pos ⟨h.1, by simp [h.2]⟩

theorem outermostLeaves_of_not_isOutermost (hs : s ∈ q.walk) (h : ¬ q.IsOutermost s) :
    outermostLeaves s = [] := by
  rw [isOutermost_iff hs] at h
  exact if_neg fun hboth => h ⟨hboth.1, by simpa using hboth.2⟩

theorem hasRepetition_outermostLeaves_iff (hs : s ∈ q.walk) {text : Site → String} :
    hasRepetition ((outermostLeaves s).map text) = true ↔
      q.IsOutermost s ∧ s.RepeatsCondition text := by
  by_cases houtermost : q.IsOutermost s
  · rw [outermostLeaves_of_isOutermost hs houtermost, hasRepetition_conditionLeaves_iff hs,
      and_iff_right houtermost]
  · rw [outermostLeaves_of_not_isOutermost hs houtermost]
    exact iff_of_false (by simp [hasRepetition]) fun h => houtermost h.1

/-- The conditions of an outermost one are values of joined conditions, so they have texts. -/
theorem firstError?_outermostLeaves (hs : s ∈ q.walk)
    (htexts : ∀ n ∈ q.root.walk, n.HasConditionTexts seen.printer) :
    seen.firstError? (outermostLeaves s) = none := by
  rw [Rendered.firstError?, List.findSome?_eq_none_iff]
  intro t ht
  by_cases houtermost : q.IsOutermost s
  · rw [outermostLeaves_of_isOutermost hs houtermost, Site.mem_conditionLeaves_iff] at ht
    obtain ⟨hreach, hkind⟩ := ht
    rcases hreach.cases_tail with rfl | ⟨p, hp, hjoined, hchild⟩
    · exact absurd houtermost.1 hkind
    · obtain ⟨c, hc, rfl⟩ := List.mem_map.mp hchild
      have hwalk := node_mem_walk (mem_walk_of_hasOperand hs hp)
      obtain ⟨line, hline⟩ := htexts p.node hwalk hjoined c hc hkind (seen.slot (p.under c))
      have hrendered : seen.line (p.under c) = .ok line := hline
      rw [Rendered.error?, hrendered]
  · rw [outermostLeaves_of_not_isOutermost hs houtermost] at ht
    cases ht

/-- **One site**: nothing stops the check, and it reports an outermost condition that repeats a
condition. -/
theorem joinedConditions_spec (hs : s ∈ q.walk)
    (htexts : ∀ n ∈ q.root.walk, n.HasConditionTexts seen.printer) :
    (joinedConditions seen s).1.fault = none ∧
      (joinedConditions seen s).1.findings.filter
        (fun f => f.violation = .sameElementsInCondition) =
          reportIf (hasRepetition ((outermostLeaves s).map seen.text))
            (Violation.sameElementsInCondition.atNode s.node) := by
  unfold joinedConditions
  split
  case isTrue =>
    dsimp only
    rw [RenderingRule.requiring, firstError?_outermostLeaves hs htexts]
    refine ⟨rfl, ?_⟩
    -- type tests are another violation
    have htests (texts : List String) : (texts.map fun (t : String) =>
        Violation.unmergedIsinstanceCalls.atNode s.node t).filter
          (fun f => f.violation = .sameElementsInCondition) = [] := by
      rw [List.filter_map, List.map_eq_nil_iff, List.filter_eq_nil_iff]
      exact fun _ _ => by simp [Violation.atNode]
    dsimp only [Report.ofFindings]
    rw [List.filter_append, filter_reportIf, if_pos rfl, htests, List.append_nil]
  case isFalse hkind =>
    rw [outermostLeaves_of_not_isOutermost hs fun h => hkind h.1]
    exact ⟨rfl, rfl⟩

end Program

theorem joinedConditions_keepsPrinter : joinedConditions.KeepsPrinter := by
  intro seen s
  unfold joinedConditions
  split
  case isTrue =>
    dsimp only
    unfold RenderingRule.requiring
    split
    case h_1 => rfl
    case h_2 => simp
  case isFalse => rfl

/-- **Conditions that are joined twice.** If all conditions have texts, the check comes to its end.
It reports, once each and in the order in which they are visited, the outermost conditions of which
two parts have one text when they are visited, and nothing else as such. Whatever the texts are, a
run that remembers what it took apart, and never looks at what stands above, reports the same sites.
There are as many conditions at a site as are counted. -/
theorem joinedConditions_reports_repeated (subject : Subject) (memory : Memory)
    (htexts : ∀ n ∈ subject.program.root.walk, n.HasConditionTexts memory.rendered.printer) :
    (Check.joinedConditions.judge subject memory).1.fault = none ∧
    (∃ reported : List Site, reported.Sublist subject.program.sites ∧
      (∀ past s rest, subject.program.sites = past ++ s :: rest →
        (s ∈ reported ↔ subject.program.IsOutermost s ∧
          s.RepeatsCondition (joinedConditions.visit memory.rendered past).2.text)) ∧
      (Check.joinedConditions.judge subject memory).1.findings.filter
        (fun f => f.violation = .sameElementsInCondition) =
          reported.map fun s => Violation.sameElementsInCondition.atNode s.node) ∧
    (∀ text : Site → String,
      (subject.program.sites.foldl (ConditionRun.step text) {}).reported.Sublist
        subject.program.sites ∧
      ∀ s ∈ subject.program.sites,
        (s ∈ (subject.program.sites.foldl (ConditionRun.step text) {}).reported ↔
          subject.program.IsOutermost s ∧ s.RepeatsCondition text)) ∧
    ∀ s ∈ subject.program.sites, ∃ conditions : List Site, conditions.Nodup ∧
      (∀ t, t ∈ conditions ↔ s.HasCondition t) ∧ conditions.length = countConditions s.node := by
  have hwalk (s : Site) (hs : s ∈ subject.program.sites) : s ∈ subject.program.walk :=
    Program.mem_walk_iff_mem_sites.mpr hs
  have hreport : (Check.joinedConditions.judge subject memory).1 =
      (joinedConditions.visit memory.rendered subject.program.sites).1 := rfl
  have hspec (past : List Site) (s : Site) (rest : List Site)
      (hsplit : subject.program.sites = past ++ s :: rest) := by
    have hprinter := joinedConditions_keepsPrinter.visit memory.rendered past
    exact Program.joinedConditions_spec (Program.mem_walk_of_sites_eq hsplit) (hprinter ▸ htexts)
  have hends : (Check.joinedConditions.judge subject memory).1.fault = none := by
    rw [hreport, RenderingRule.fault_visit_eq_none_iff]
    exact fun past s rest hsplit => (hspec past s rest hsplit).1
  refine ⟨hends, ?_, fun text => ?_, fun s hs => ?_⟩
  · obtain ⟨reported, hsublist, hmem, hfindings⟩ := RenderingRule.exists_reported
      (fun seen s => hasRepetition ((outermostLeaves s).map seen.text))
      subject.program.sites_nodup hends fun past s rest hsplit => (hspec past s rest hsplit).2
    refine ⟨reported, hsublist, fun past s rest hsplit => ?_, hfindings⟩
    rw [hmem past s rest hsplit]
    exact Program.hasRepetition_outermostLeaves_iff (Program.mem_walk_of_sites_eq hsplit)
  · classical
    have hstart : ConditionRun.Records subject.program text [] {} := ⟨by simp, rfl⟩
    rw [(hstart.toEnd (List.nil_append _).symm).reported]
    refine ⟨List.filter_sublist, fun s hs => ?_⟩
    rw [List.mem_filter, and_iff_right hs, decide_eq_true_eq]
  · exact ⟨conditionLeaves s.above s.node, Program.nodup_conditionLeaves (hwalk s hs),
      fun t => Site.mem_conditionLeaves_iff, s.length_conditionLeaves⟩

/-- The condition `first or (first and second)`. -/
def repeatedTest : Node :=
  .mk 2 (some ⟨1, 0⟩) (.boolean .or [.mk 3 none (.name "first" (some .load)),
    .mk 4 (some ⟨1, 10⟩) (.boolean .and [.mk 5 none (.name "first" (some .load)),
      .mk 6 none (.name "second" (some .load))])])

/-- The condition as a subject. -/
def repeatedSubject : Subject :=
  ⟨{ root := .mk 0 none (.file [.mk 1 (some ⟨1, 0⟩) (.expression repeatedTest)]),
     distinct := by decide }, [], "tests.py", .initial⟩

theorem Printer.WritesNames.writes {printer : Printer} (hprinter : printer.WritesNames) {n : Node}
    (h : n.kind = .name) : printer.Writes n := by
  obtain ⟨id, hid⟩ := Option.isSome_iff_exists.mp (Node.kind_eq_name_iff.mp h)
  exact fun slot => ⟨id, hprinter slot n id hid⟩

theorem joinedConditions_reports_repeated_repeatedSubject :
    (∀ n ∈ repeatedSubject.program.root.walk, n.HasConditionTexts {}) ∧
    (Check.joinedConditions.judge repeatedSubject {}).1.fault = none ∧
    ∃ reported : List Site, reported.Sublist repeatedSubject.program.sites ∧
      (∀ past s rest, repeatedSubject.program.sites = past ++ s :: rest →
        (s ∈ reported ↔ repeatedSubject.program.IsOutermost s ∧
          s.RepeatsCondition (joinedConditions.visit {} past).2.text)) ∧
      [Violation.sameElementsInCondition.atNode repeatedTest] =
        reported.map fun s => Violation.sameElementsInCondition.atNode s.node := by
  have hnames : ∀ n ∈ repeatedSubject.program.root.walk, n.kind = .boolean →
      ∀ c ∈ n.children, c.kind ≠ .boolean → c.kind = .name := by decide
  have htexts : ∀ n ∈ repeatedSubject.program.root.walk, n.HasConditionTexts {} :=
    fun n hn hkind c hc hother => Printer.writesNames_default.writes (hnames n hn hkind c hc hother)
  obtain ⟨hends, hreported, -⟩ := joinedConditions_reports_repeated repeatedSubject {} htexts
  exact ⟨htexts, hends, hreported⟩

end Stricture
