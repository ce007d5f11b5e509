import Mathlib.Data.List.Sort
import Mathlib.Data.Set.List
import Stricture.Proofs.Function.Locals
import Stricture.Proofs.Options.Relaxation

/-!
# Lines with many nodes

A line counts the nodes that start on it, apart from definitions and the hints of variables
(`Program.CountsOn`). The check reports every line with too many nodes at the first of them, and the
module if the median of the counts is too high.

It goes over the nodes in the order in which they are visited, and collects them in one group for
each line. A declaration is visited before its hint. So the hints that the run has on its list when
it comes to a node decide whether the node is a hint, as does what stands right above it
(`Program.any_is_iff`). What the run collects are then the lines on which something counts, each of
them once, with all the nodes that count on it (`Program.linesOf_eq`).
-/

namespace Stricture

open Rules

/-! ### Medians -/

/-- Twice a median of some counts: twice the one in the middle if they are odd in number, and
otherwise the sum of the two in the middle. -/
def IsMedian (counts : List Nat) (double : Nat) : Prop :=
  ∃ sorted : List Nat, sorted.Perm counts ∧ sorted.Pairwise (· ≤ ·) ∧
    ∃ lower upper : List Nat, lower.length = upper.length ∧
      ((∃ x, sorted = lower ++ x :: upper ∧ double = 2 * x) ∨
        ∃ x y, sorted = lower ++ x :: y :: upper ∧ double = x + y)

/-- Every list has one or two members in the middle. -/
theorem exists_middle {α : Type} {things : List α} (h : things ≠ []) :
    ∃ lower upper : List α, lower.length = upper.length ∧
      ((∃ x, things = lower ++ x :: upper) ∨ ∃ x y, things = lower ++ x :: y :: upper) := by
  have hpos := List.length_pos_iff.mpr h
  have hsplit := (List.take_append_drop ((things.length - 1) / 2) things).symm
  have hlower : (things.take ((things.length - 1) / 2)).length = (things.length - 1) / 2 := by
    rw [List.length_take]
    omega
  have hrest : (things.drop ((things.length - 1) / 2)).length =
      things.length - (things.length - 1) / 2 := List.length_drop
  generalize things.drop ((things.length - 1) / 2) = rest at hsplit hrest
  cases rest with
  | nil =>
    rw [List.length_nil] at hrest
    omega
  | cons x rest =>
    rw [List.length_cons] at hrest
    by_cases hodd : things.length % 2 = 1
    · exact ⟨_, rest, by omega, .inl ⟨x, hsplit⟩⟩
    · cases rest with
      | nil =>
        rw [List.length_nil] at hrest
        omega
      | cons y upper =>
        rw [List.length_cons] at hrest
        exact ⟨_, upper, by omega, .inr ⟨x, y, hsplit⟩⟩

theorem mergeSort_perm_pairwise (counts : List Nat) :
    counts.mergeSort.Perm counts ∧ counts.mergeSort.Pairwise (· ≤ ·) :=
  ⟨List.mergeSort_perm counts _, List.pairwise_mergeSort' (· ≤ ·) counts⟩

theorem exists_isMedian {counts : List Nat} (h : counts ≠ []) :
    ∃ double, IsMedian counts double := by
  obtain ⟨hperm, hsorted⟩ := mergeSort_perm_pairwise counts
  have hne : counts.mergeSort ≠ [] := fun hnil => h (List.nil_perm.mp (hnil ▸ hperm))
  obtain ⟨lower, upper, hlength, ⟨x, hmiddle⟩ | ⟨x, y, hmiddle⟩⟩ := exists_middle hne
  · exact ⟨2 * x, _, hperm, hsorted, lower, upper, hlength, .inl ⟨x, hmiddle, rfl⟩⟩
  · exact ⟨x + y, _, hperm, hsorted, lower, upper, hlength, .inr ⟨x, y, hmiddle, rfl⟩⟩

/-- **The median is computed**, and so there is only one. -/
theorem IsMedian.median_eq {counts : List Nat} {double : Nat} (h : IsMedian counts double) :
    median counts = ⟨double, counts.length % 2 == 0⟩ := by
  obtain ⟨sorted, hperm, hsorted, lower, upper, hlength, hmiddle⟩ := h
  obtain ⟨hperm', hsorted'⟩ := mergeSort_perm_pairwise counts
  -- what is sorted is determined by its members
  have heq : counts.mergeSort = sorted :=
    (hperm'.trans hperm.symm).eq_of_pairwise' hsorted' hsorted
  have hsize : sorted.length = counts.length := hperm.length_eq
  have hempty : ¬ counts.isEmpty = true := by
    rw [List.isEmpty_iff_length_eq_zero, ← hsize]
    rcases hmiddle with ⟨x, rfl, -⟩ | ⟨x, y, rfl, -⟩ <;> simp
  unfold median
  dsimp only
  rw [if_neg hempty, heq, ← hsize]
  rcases hmiddle with ⟨x, rfl, rfl⟩ | ⟨x, y, rfl, rfl⟩
  · have hcount : (lower ++ x :: upper).length = 2 * lower.length + 1 := by
      rw [List.length_append, List.length_cons, ← hlength]
      omega
    have hmiddle : (2 * lower.length + 1) / 2 = lower.length := by omega
    have hodd : (2 * lower.length + 1) % 2 = 1 := by omega
    rw [hcount, hmiddle, hodd, if_pos rfl]
    simp [List.getD]
  · have hcount : (lower ++ x :: y :: upper).length = 2 * (lower.length + 1) := by
      rw [List.length_append, List.length_cons, List.length_cons, ← hlength]
      omega
    have hmiddle : 2 * (lower.length + 1) / 2 = lower.length + 1 := by omega
    have heven : 2 * (lower.length + 1) % 2 = 0 := by omega
    rw [hcount, hmiddle, heven, if_neg Nat.zero_ne_one]
    simp [List.getD]

/-! ### What counts on a line -/

/-- The node at the site is the type hint of a variable whose declaration has a line. -/
def isVariableHint (s : Site) : Bool :=
  match s.above with
  | p :: _ => p.kind == .annAssign && p.line?.isSome && p.hint?.any s.node.is
  | [] => false

/-- The line for which a site counts. Definitions and the hints of variables do not count; a hint
goes with its declaration, so it counts if the declaration has no line. -/
def countedLine? (s : Site) : Option Int :=
  if s.node.isAny [.classDef, .functionDef, .asyncFunctionDef] || isVariableHint s then none
  else s.node.line?

namespace Program

/-- The node counts on the line: it starts there, and it is neither the definition of a class or a
function nor the hint of a variable. -/
structure CountsOn (q : Program) (l : Int) (n : Node) : Prop where
  mem : n ∈ q.root.walk
  line : n.line? = some l
  plain : n.isAny [.classDef, .functionDef, .asyncFunctionDef] = false
  unhinted : ∀ p ∈ q.root.walk, p.kind = .annAssign → p.hint? ≠ some n

/-- The number of nodes that count on a line. -/
noncomputable def lineCount (q : Program) (l : Int) : Nat :=
  {n | q.CountsOn l n}.ncard

/-- The site counts on the line, and is visited before all others that do. -/
def IsFirstOn (q : Program) (l : Int) (s : Site) : Prop :=
  s ∈ q.sites ∧ q.CountsOn l s.node ∧
    ∀ t ∈ q.sites, q.CountsOn l t.node → t = s ∨ q.Precedes s t

/-- Declarations of variables stand on lines. -/
def DeclaresOnLines (q : Program) : Prop :=
  ∀ p ∈ q.root.walk, p.kind = .annAssign → p.line?.isSome = true

variable {q : Program} {s : Site} {l : Int}

/-- A declaration stands right above its hint. -/
theorem eq_under_of_hint? {t : Site} (hs : s ∈ q.walk) (ht : t ∈ q.walk)
    (h : t.node.hint? = some s.node) : s = t.under s.node :=
  eq_of_node_eq hs (under_mem_walk ht (Node.mem_children_of_hint? h)) rfl

theorem isVariableHint_iff (hs : s ∈ q.walk) : isVariableHint s = true ↔
    ∃ p ∈ q.root.walk, p.kind = .annAssign ∧ p.line?.isSome = true ∧ p.hint? = some s.node := by
  unfold isVariableHint
  constructor
  · intro hhint
    split at hhint
    case h_1 p rest habove =>
      rw [Bool.and_eq_true, Bool.and_eq_true, beq_iff_eq, Option.any_eq_true] at hhint
      obtain ⟨⟨hkind, hline⟩, m, hm, his⟩ := hhint
      have hp : p ∈ q.root.walk :=
        ((mem_above_iff hs).mp (habove ▸ List.mem_cons_self)).1
      have hmwalk := child_mem_walk hp (Node.mem_children_of_hint? hm)
      have hnode := node_eq_of_id_eq (node_mem_walk hs) hmwalk (Node.is_iff.mp his)
      exact ⟨p, hp, hkind, hline, hnode ▸ hm⟩
    case h_2 => cases hhint
  · rintro ⟨p, hp, hkind, hline, hhint⟩
    obtain ⟨t, ht, rfl⟩ := exists_site hp
    have habove : s.above = t.node :: t.above := congrArg Site.above (eq_under_of_hint? hs ht hhint)
    rw [habove]
    simp only [Bool.and_eq_true, beq_iff_eq, Option.any_eq_true]
    exact ⟨⟨hkind, hline⟩, s.node, hhint, Node.is_iff.mpr rfl⟩

theorem countedLine?_eq_some_iff (h : q.DeclaresOnLines) (hs : s ∈ q.walk) :
    countedLine? s = some l ↔ q.CountsOn l s.node := by
  have hhint : isVariableHint s = false ↔
      ∀ p ∈ q.root.walk, p.kind = .annAssign → p.hint? ≠ some s.node := by
    rw [← Bool.not_eq_true, isVariableHint_iff hs]
    simp only [not_exists, not_and, ne_eq]
    exact forall₃_congr fun p hp hkind => forall_prop_of_true (h p hp hkind)
  rw [countedLine?, ite_eq_iff]
  constructor
  · rintro (⟨-, hnone⟩ | ⟨hcounts, hline⟩)
    · cases hnone
    · rw [Bool.or_eq_true, not_or, Bool.not_eq_true, Bool.not_eq_true] at hcounts
      exact ⟨node_mem_walk hs, hline, hcounts.1, hhint.mp hcounts.2⟩
  · intro hcounts
    refine .inr ⟨?_, hcounts.line⟩
    rw [Bool.or_eq_true, not_or, Bool.not_eq_true, Bool.not_eq_true]
    exact ⟨hcounts.plain, hhint.mpr hcounts.unhinted⟩

/-- The sites that count on a line, in the order in which they are visited. -/
def lineSites (q : Program) (l : Int) : List Site :=
  q.sites.filter fun s => countedLine? s == some l

theorem mem_lineSites_iff (h : q.DeclaresOnLines) :
    s ∈ q.lineSites l ↔ s ∈ q.sites ∧ q.CountsOn l s.node := by
  rw [lineSites, List.mem_filter, beq_iff_eq]
  refine and_congr_right fun hs => ?_
  exact countedLine?_eq_some_iff h (mem_walk_iff_mem_sites.mpr hs)

theorem length_lineSites (h : q.DeclaresOnLines) : (q.lineSites l).length = q.lineCount l := by
  have hnodup : ((q.lineSites l).map Site.node).Nodup := by
    refine (List.filter_sublist.map Site.node).nodup (List.Nodup.of_map Node.id ?_)
    rw [List.map_map]
    exact q.distinct
  have hmem (n : Node) : n ∈ (q.lineSites l).map Site.node ↔ q.CountsOn l n := by
    rw [List.mem_map]
    constructor
    · rintro ⟨s, hs, rfl⟩
      exact ((mem_lineSites_iff h).mp hs).2
    · intro hcounts
      obtain ⟨s, hs, rfl⟩ := exists_site hcounts.mem
      exact ⟨s, (mem_lineSites_iff h).mpr ⟨mem_walk_iff_mem_sites.mp hs, hcounts⟩, rfl⟩
  rw [lineCount, ncard_setOf_eq_length hnodup hmem, List.length_map]

/-- The first site that counts on a line, if there is one. -/
def firstOn (q : Program) (l : Int) : Site :=
  (q.lineSites l).head?.getD q.root.top

theorem lineSites_eq_cons (hne : q.lineSites l ≠ []) :
    ∃ rest, q.lineSites l = q.firstOn l :: rest := by
  obtain ⟨s, rest, hline⟩ := List.exists_cons_of_ne_nil hne
  refine ⟨rest, ?_⟩
  rw [firstOn, hline]
  rfl

theorem isFirstOn_firstOn (h : q.DeclaresOnLines) (hne : q.lineSites l ≠ []) :
    q.IsFirstOn l (q.firstOn l) := by
  obtain ⟨rest, hline⟩ := lineSites_eq_cons hne
  have hfirst := (mem_lineSites_iff h).mp (hline ▸ List.mem_cons_self)
  refine ⟨hfirst.1, hfirst.2, fun t ht hcounts => ?_⟩
  have hmem : t ∈ q.lineSites l := (mem_lineSites_iff h).mpr ⟨ht, hcounts⟩
  rw [hline, List.mem_cons] at hmem
  refine hmem.imp id fun hrest => ?_
  have hsublist : (q.firstOn l :: rest).Sublist q.sites := hline ▸ List.filter_sublist
  exact ((List.singleton_sublist.mpr hrest).cons_cons _).trans hsublist

end Program

/-! ### The run over all sites -/

/-- The hint that the run puts on its list at a site. -/
def hintsAt (s : Site) : List Node :=
  if s.node.line?.isSome then LineRun.hintsOf s.node else []

/-- The lines for which some sites count, with the sites. -/
def collectedLines (sites : List Site) : List (Int × List Site) :=
  (sites.filterMap countedLine?).eraseDups.map fun l =>
    (l, sites.filter fun s => countedLine? s == some l)

theorem mem_hintsAt_iff {t : Site} {hint : Node} : hint ∈ hintsAt t ↔
    t.node.kind = .annAssign ∧ t.node.line?.isSome = true ∧ t.node.hint? = some hint := by
  unfold hintsAt LineRun.hintsOf
  split
  case isFalse hline => simp [hline]
  case isTrue hline => split <;> simp_all

theorem collectedLines_of_none {past : List Site} {s : Site} (h : countedLine? s = none) :
    collectedLines (past ++ [s]) = collectedLines past := by
  simp [collectedLines, h]

theorem collectedLines_of_some {past : List Site} {s : Site} {l : Int}
    (h : countedLine? s = some l) :
    collectedLines (past ++ [s]) = enterGroup l s (collectedLines past) := by
  have hkeys : (past ++ [s]).filterMap countedLine? = past.filterMap countedLine? ++ [l] := by
    simp [h]
  have hmembers (key : Int) : (past ++ [s]).filter (fun t => countedLine? t == some key) =
      if key == l then (past.filter fun t => countedLine? t == some key) ++ [s]
      else past.filter fun t => countedLine? t == some key := by
    by_cases hkey : key = l
    · simp [h, hkey]
    · have hne : l ≠ key := Ne.symm hkey
      simp [h, hkey, hne]
  rw [collectedLines, hkeys, eraseDups_concat, collectedLines,
    enterGroup_map (nodup_eraseDups _), List.map_append]
  simp only [hmembers, List.mem_eraseDups]
  by_cases hmem : l ∈ past.filterMap countedLine?
  · simp [hmem]
  · -- the line is new, so nothing has counted for it
    have hnone : past.filter (fun t => countedLine? t == some l) = [] := by
      rw [List.filter_eq_nil_iff]
      intro t ht hcounts
      exact hmem (List.mem_filterMap.mpr ⟨t, ht, beq_iff_eq.mp hcounts⟩)
    simp [hmem, hnone]

/-- After some sites the run has on its list the hints of their declarations, and the lines for
which they count. -/
structure Rules.LineRun.Records (run : LineRun) (past : List Site) : Prop where
  ignored : run.ignored = past.flatMap hintsAt
  lines : run.lines = collectedLines past

namespace Program

variable {q : Program} {s : Site} {past rest : List Site}

/-- A declaration is visited before its hint, so the list of hints decides at a site whether this is
one of them. -/
theorem any_is_iff (h : q.sites = past ++ s :: rest) :
    ((past ++ [s]).flatMap hintsAt).any s.node.is = true ↔ isVariableHint s = true := by
  have hs := mem_walk_of_sites_eq h
  rw [isVariableHint_iff hs, List.any_eq_true]
  constructor
  · rintro ⟨hint, hmem, his⟩
    obtain ⟨t, ht, hhint⟩ := List.mem_flatMap.mp hmem
    obtain ⟨hkind, hline, hhint⟩ := mem_hintsAt_iff.mp hhint
    have htsites : t ∈ q.sites := by
      rw [h, ← List.singleton_append, ← List.append_assoc]
      exact List.mem_append_left rest ht
    have htwalk := node_mem_walk_of_mem_sites htsites
    have hwalk := child_mem_walk htwalk (Node.mem_children_of_hint? hhint)
    rw [node_eq_of_id_eq (node_mem_walk hs) hwalk (Node.is_iff.mp his)]
    exact ⟨t.node, htwalk, hkind, hline, hhint⟩
  · rintro ⟨p, hp, hkind, hline, hhint⟩
    obtain ⟨t, ht, rfl⟩ := exists_site hp
    have hchild : s ∈ t.children := by
      rw [eq_under_of_hint? hs ht hhint]
      exact Site.under_mem_children (Node.mem_children_of_hint? hhint)
    have hpast : t ∈ past :=
      (precedes_iff_mem h).mp (precedes_of_mem_children (mem_walk_iff_mem_sites.mp ht) hchild)
    refine ⟨s.node, List.mem_flatMap.mpr ⟨t, List.mem_append_left _ hpast, ?_⟩, Node.is_iff.mpr rfl⟩
    exact mem_hintsAt_iff.mpr ⟨hkind, hline, hhint⟩

/-- **One site**: the run enters it if it counts, and puts its hint on the list. -/
theorem records_step (h : q.sites = past ++ s :: rest) {run : LineRun} (hr : run.Records past) :
    (run.step s).Records (past ++ [s]) := by
  have hhints : past.flatMap hintsAt ++ hintsAt s = (past ++ [s]).flatMap hintsAt := by simp
  -- a site that does not count changes no line
  have hskip (hnone : countedLine? s = none) : run.lines = collectedLines (past ++ [s]) := by
    rw [hr.lines, collectedLines_of_none hnone]
  unfold LineRun.step
  split
  case h_1 hline =>
    refine ⟨?_, hskip (by simp [countedLine?, hline])⟩
    rw [hr.ignored, ← hhints]
    simp [hintsAt, hline]
  case h_2 l hline =>
    split
    case isTrue hdef =>
      refine ⟨?_, hskip (by simp [countedLine?, hdef])⟩
      have hkind : s.node.kind ≠ .annAssign := by
        intro hkind
        simp [Node.isAny, hkind] at hdef
      rw [hr.ignored, ← hhints]
      simp [hintsAt, LineRun.hintsOf, hkind]
    case isFalse hdef =>
      have hignored : run.ignored ++ LineRun.hintsOf s.node = (past ++ [s]).flatMap hintsAt := by
        rw [hr.ignored, ← hhints, hintsAt, hline]
        rfl
      dsimp only
      rw [hignored]
      split
      case isTrue hhint =>
        exact ⟨rfl, hskip (by simp [countedLine?, (any_is_iff h).mp hhint])⟩
      case isFalse hhint =>
        have hcounts : countedLine? s = some l := by
          rw [any_is_iff h, Bool.not_eq_true] at hhint
          simp [countedLine?, hdef, hhint, hline]
        exact ⟨rfl, by rw [hr.lines, collectedLines_of_some hcounts]⟩

/-- All sites that are left. -/
theorem records_foldl (h : q.sites = past ++ rest) {run : LineRun} (hr : run.Records past) :
    (rest.foldl LineRun.step run).Records q.sites := by
  induction rest generalizing past run with
  | nil =>
    rw [h, List.append_nil]
    exact hr
  | cons s rest ih =>
    exact ih (by rw [h, List.append_assoc, List.singleton_append]) (records_step h hr)

/-- **What the run collects** are the lines on which something counts, with the sites that count
there. -/
theorem linesOf_eq (q : Program) :
    linesOf q.sites =
      (q.sites.filterMap countedLine?).eraseDups.map fun l => (l, q.lineSites l) := by
  have hstart : LineRun.Records {} [] := ⟨rfl, rfl⟩
  exact (records_foldl (List.nil_append _).symm hstart).lines

theorem mem_countedLines_iff {l : Int} :
    l ∈ (q.sites.filterMap countedLine?).eraseDups ↔ q.lineSites l ≠ [] := by
  rw [List.mem_eraseDups, List.mem_filterMap, lineSites, ne_eq, List.filter_eq_nil_iff]
  push Not
  simp only [beq_iff_eq]

end Program

/-! ### The whole check -/

theorem Limit.not_amount_lt_zero (limit : Limit) : ¬ limit.amount < .ofNat 0 := by
  intro hlt
  have hone : Amount.ofNat 1 < .ofNat 0 := Amount.lt_of_le_of_lt limit.positive hlt
  exact absurd hone (by decide)

theorem lineCounts_eq {q : Program} {o : Options} {lines : List Int}
    (hmem : ∀ l ∈ lines, q.lineSites l ≠ [])
    (hgroups : linesOf q.sites = lines.map fun l => (l, q.lineSites l)) :
    lineCounts o q.sites =
      (lines.filter fun l => o.maxLineComplexity.isExceededBy (q.lineSites l).length).map fun l =>
        Violation.lineComplexity.atNode (q.firstOn l).node (toString (q.lineSites l).length) := by
  rw [lineCounts, hgroups, List.flatMap_map, ← flatMap_reportIf]
  refine List.flatMap_congr fun l hl => ?_
  obtain ⟨rest, hline⟩ := Program.lineSites_eq_cons (hmem l hl)
  rw [hline]
  exact List.flatMap_singleton _ _

/-- The score is reported if it is a median that is too high. Without lines there is none, and
nothing is reported since limits are positive. -/
theorem score_cases (limit : Limit) (counts : List Nat) :
    (counts = [] ∧ reportIf (limit.amount < .half (median counts).double)
      (Violation.jonesScore.atFile (median counts).display) = []) ∨
    ∃ double, (∀ d, IsMedian counts d ↔ d = double) ∧
      reportIf (limit.amount < .half (median counts).double)
        (Violation.jonesScore.atFile (median counts).display) =
      reportIf (limit.amount < .half double)
        (Violation.jonesScore.atFile (Median.display ⟨double, counts.length % 2 == 0⟩)) := by
  by_cases hcounts : counts = []
  · subst hcounts
    have hhalf : Amount.half (median []).double = .ofNat 0 := by decide
    rw [hhalf, decide_eq_false limit.not_amount_lt_zero]
    exact .inl ⟨rfl, rfl⟩
  · obtain ⟨double, hmedian⟩ := exists_isMedian hcounts
    rw [hmedian.median_eq]
    refine .inr ⟨double, fun d => ⟨fun hd => ?_, fun hd => hd ▸ hmedian⟩, rfl⟩
    exact congrArg Median.double (hd.median_eq.symm.trans hmedian.median_eq)

/-- **Lines with many nodes.** The check comes to its end. It reports every line on which too many
nodes count, once each, with their number and at the first of them, and nothing else but the score.
That is the median of the counts of all lines on which something counts, and it is reported once if
it is too high. -/
theorem lineComplexity_reports_lines (subject : Subject) (memory : Memory)
    (h : subject.program.DeclaresOnLines) :
    (Check.lineComplexity.judge subject memory).1.fault = none ∧
    ∃ (complex lines : List Int) (first : Int → Site) (score : List Finding),
      (complex.Nodup ∧ ∀ l, l ∈ complex ↔
        subject.options.maxLineComplexity.isExceededBy (subject.program.lineCount l) = true) ∧
      (∀ l ∈ complex, subject.program.IsFirstOn l (first l)) ∧
      (lines.Nodup ∧ ∀ l, l ∈ lines ↔ subject.program.lineCount l ≠ 0) ∧
      ((lines = [] ∧ score = []) ∨ ∃ double,
        (∀ d, IsMedian (lines.map subject.program.lineCount) d ↔ d = double) ∧
        score = reportIf (subject.options.maxJonesScore.amount < .half double)
          (Violation.jonesScore.atFile (Median.display ⟨double, lines.length % 2 == 0⟩))) ∧
      (Check.lineComplexity.judge subject memory).1.findings =
        (complex.map fun l => Violation.lineComplexity.atNode (first l).node
          (toString (subject.program.lineCount l))) ++ score := by
  refine ⟨rfl, ?_⟩
  have hgroups := subject.program.linesOf_eq
  have hmem (l : Int) := Program.mem_countedLines_iff (q := subject.program) (l := l)
  have hnodup := nodup_eraseDups (subject.program.sites.filterMap countedLine?)
  generalize (subject.program.sites.filterMap countedLine?).eraseDups = lines at hgroups hmem hnodup
  have hlength (l : Int) : (subject.program.lineSites l).length = subject.program.lineCount l :=
    Program.length_lineSites h
  have hlines (l : Int) : l ∈ lines ↔ subject.program.lineCount l ≠ 0 := by
    rw [hmem, ← hlength, ne_eq, ne_eq, List.length_eq_zero_iff]
  have hscore : moduleScore subject.program.sites =
      median (lines.map subject.program.lineCount) := by
    rw [moduleScore, hgroups, List.map_map]
    exact congrArg median (List.map_congr_left fun l _ => hlength l)
  have hcases := score_cases subject.options.maxJonesScore (lines.map subject.program.lineCount)
  rw [List.map_eq_nil_iff, List.length_map] at hcases
  have hcounts := lineCounts_eq (o := subject.options) (fun l hl => (hmem l).mp hl) hgroups
  simp only [hlength] at hcounts
  refine ⟨lines.filter fun l =>
      subject.options.maxLineComplexity.isExceededBy (subject.program.lineCount l), lines,
    subject.program.firstOn, _, ⟨hnodup.filter _, fun l => ?_⟩, fun l hl => ?_, ⟨hnodup, hlines⟩,
    hcases, ?_⟩
  · rw [List.mem_filter, hlines]
    refine and_iff_right_of_imp fun hexceeded hzero => ?_
    rw [hzero, Limit.isExceededBy, decide_eq_true_eq] at hexceeded
    exact Limit.not_amount_lt_zero _ hexceeded
  · exact Program.isFirstOn_firstOn h ((hmem l).mp (List.mem_of_mem_filter hl))
  · rw [← hcounts, ← hscore]
    rfl

/-- The declaration `total: int = first + second`. -/
def sumDeclaration : Node :=
  .mk 1 (some ⟨1, 0⟩) (.annAssign (variableAt 2 1 0 "total" .store) (variableAt 3 1 7 "int" .load)
    (some (.mk 4 (some ⟨1, 13⟩) (.binary (variableAt 5 1 13 "first" .load) .add
      (variableAt 6 1 21 "second" .load)))))

/-- The declaration as a subject, with low limits. -/
def sumSubject : Subject :=
  ⟨{ root := .mk 0 none (.file [sumDeclaration]), distinct := by decide }, [], "sum.py",
    { Options.initial with
      maxLineComplexity := ⟨.whole 3, .ofInt 3, rfl, by decide⟩
      maxJonesScore := ⟨.whole 3, .ofInt 3, rfl, by decide⟩ }⟩

theorem lineComplexity_reports_lines_sumSubject :
    sumSubject.program.DeclaresOnLines ∧
    ∃ (complex lines : List Int) (first : Int → Site) (score : List Finding),
      (complex.Nodup ∧ ∀ l, l ∈ complex ↔
        sumSubject.options.maxLineComplexity.isExceededBy (sumSubject.program.lineCount l) =
          true) ∧
      (∀ l ∈ complex, sumSubject.program.IsFirstOn l (first l)) ∧
      (lines.Nodup ∧ ∀ l, l ∈ lines ↔ sumSubject.program.lineCount l ≠ 0) ∧
      [Violation.lineComplexity.atNode sumDeclaration "5", Violation.jonesScore.atFile "5"] =
        (complex.map fun l => Violation.lineComplexity.atNode (first l).node
          (toString (sumSubject.program.lineCount l))) ++ score := by
  have hlines : sumSubject.program.DeclaresOnLines := by
    unfold Program.DeclaresOnLines
    decide
  obtain ⟨-, complex, lines, first, score, hcomplex, hfirst, hcounted, -, hfindings⟩ :=
    lineComplexity_reports_lines sumSubject {} hlines
  have hconcrete : (Check.lineComplexity.judge sumSubject {}).1.findings =
      [Violation.lineComplexity.atNode sumDeclaration "5", Violation.jonesScore.atFile "5"] := by
    have hscore : moduleScore sumSubject.program.sites = ⟨10, false⟩ :=
      IsMedian.median_eq
        ⟨[5], .refl _, List.pairwise_singleton _ 5, [], [], rfl, .inl ⟨5, rfl, rfl⟩⟩
    have hreport : (Check.lineComplexity.judge sumSubject {}).1.findings =
        lineComplexity sumSubject.options sumSubject.program.sites := rfl
    rw [hreport, lineComplexity, hscore]
    rfl
  exact ⟨hlines, complex, lines, first, score, hcomplex, hfirst, hcounted,
    hconcrete.symm.trans hfindings⟩

end Stricture
