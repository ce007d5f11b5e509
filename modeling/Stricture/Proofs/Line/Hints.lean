import Mathlib.Logic.Function.Basic
import Stricture.Proofs.Line.Complexity
import Stricture.Proofs.Tree.Replacement

/-!
# The hints of variables on their lines

A type hint does not make a line more complex, so the check leaves the hint of a variable out of the
count. It leaves out one node, the top of the hint, and counts what stands below it. So another hint
changes the count of every line by the difference of what stands below the two hints on that line
(`lineComplexity_counts_below_hints`): hints of a single node can be exchanged freely, and a name
cannot be exchanged for a list of that name.
-/

namespace Stricture

open Rules

namespace Node

/-- No statement stands in the tree; so it is with expressions. -/
def HoldsNoStatement (n : Node) : Prop :=
  ∀ m ∈ n.walk, m.kind.family ≠ .statement

instance (n : Node) : Decidable n.HoldsNoStatement :=
  inferInstanceAs (Decidable (∀ m ∈ n.walk, m.kind.family ≠ .statement))

/-- The number of nodes below the node that start on a line. -/
def countBelow (n : Node) (l : Int) : Nat :=
  (n.children.flatMap Node.walk).countP fun m => m.line? == some l

end Node

/-! ### Marks -/

/-- What the check sees of a site: the line for which it counts, and where its node starts. -/
def lineMark (s : Site) : Option Int × Option Position :=
  (countedLine? s, s.node.position)

theorem isVariableHint_under (n p : Node) (above : List Node) :
    isVariableHint ⟨n, p :: above⟩ =
      (p.kind == .annAssign && p.line?.isSome && p.hint?.map Node.id == some n.id) := by
  have hhint : p.hint?.any n.is = (p.hint?.map Node.id == some n.id) := by
    cases p.hint? <;> simp [Node.is, Bool.beq_comm]
  rw [← hhint]
  rfl

theorem isVariableHint_eq (s : Site) :
    isVariableHint s = (s.above.head?.map Node.face).any fun p =>
      p.kind == .annAssign && (p.position.map Position.line).isSome &&
        p.hint == some s.node.id := by
  obtain ⟨n, above⟩ := s
  cases above with
  | nil => rfl
  | cons p above => exact isVariableHint_under n p above

theorem lineMark_factorsThrough : Function.FactorsThrough lineMark Site.face := by
  rintro s t h
  obtain ⟨hnode, habove⟩ := Prod.mk.inj h
  have hid : s.node.id = t.node.id := congrArg Node.Face.id hnode
  have hposition : s.node.position = t.node.position := congrArg Node.Face.position hnode
  have hkind : s.node.kind = t.node.kind := congrArg Node.Face.kind hnode
  simp only [lineMark, countedLine?, Node.isAny, Node.line?, isVariableHint_eq, hid, hposition,
    hkind, habove]

theorem map_lineMark_congr {sites sites' : List Site}
    (h : sites.map Site.face = sites'.map Site.face) :
    sites.map lineMark = sites'.map lineMark := by
  obtain ⟨mark, hmark⟩ := (Function.factorsThrough_iff lineMark).mp lineMark_factorsThrough
  rw [hmark, ← List.map_map, ← List.map_map, h]

/-- What the check sees in a visit depends on what stands above only if the top is a hint. -/
theorem map_lineMark_visit {n : Node} {above above' : List Node}
    (h : isVariableHint ⟨n, above⟩ = isVariableHint ⟨n, above'⟩) :
    (⟨n, above⟩ : Site).visit.map lineMark = (⟨n, above'⟩ : Site).visit.map lineMark := by
  have htop : lineMark ⟨n, above⟩ = lineMark ⟨n, above'⟩ := by
    simp only [lineMark, countedLine?, h]
  have hbelow := map_lineMark_congr (Site.map_face_visits (p := n) rfl above' above n.children)
  rw [Site.visit_eq_cons, Site.visit_eq_cons, List.map_cons, List.map_cons, htop, hbelow]

theorem map_lineMark_visits {nodes : List Node} {above above' : List Node}
    (h : ∀ n ∈ nodes, isVariableHint ⟨n, above⟩ = isVariableHint ⟨n, above'⟩) :
    (Site.visits above nodes).map lineMark = (Site.visits above' nodes).map lineMark := by
  rw [Site.visits, Site.visits, List.map_flatMap, List.map_flatMap]
  exact List.flatMap_congr fun n hn => map_lineMark_visit (h n hn)

/-- A mark with a line. -/
def countedMark? (mark : Option Int × Option Position) : Option (Int × Option Position) :=
  mark.1.map fun l => (l, mark.2)

/-- What the check sees of the sites that count. -/
def countedMarks (sites : List Site) : List (Int × Option Position) :=
  (sites.map lineMark).filterMap countedMark?

theorem countedMarks_congr {sites sites' : List Site}
    (h : sites.map Site.face = sites'.map Site.face) : countedMarks sites = countedMarks sites' :=
  congrArg (List.filterMap countedMark?) (map_lineMark_congr h)

theorem countedMarks_append (sites sites' : List Site) :
    countedMarks (sites ++ sites') = countedMarks sites ++ countedMarks sites' := by
  rw [countedMarks, List.map_append, List.filterMap_append]
  rfl

theorem map_fst_countedMarks (sites : List Site) :
    (countedMarks sites).map Prod.fst = sites.filterMap countedLine? := by
  rw [countedMarks, List.filterMap_map, List.map_filterMap]
  refine List.filterMap_congr fun s _ => ?_
  cases h : countedLine? s <;> simp [countedMark?, lineMark, h]

theorem countP_countedMarks (sites : List Site) (l : Int) :
    (countedMarks sites).countP (fun mark => mark.1 == l) =
      sites.countP fun s => countedLine? s == some l := by
  have hcount : (countedMarks sites).countP (fun mark => mark.1 == l) =
      ((countedMarks sites).map Prod.fst).countP (· == l) := by
    rw [List.countP_map]
    rfl
  rw [hcount, map_fst_countedMarks, List.countP_filterMap]
  refine List.countP_congr fun s _ => ?_
  cases countedLine? s <;> simp

/-! ### Below a hint -/

/-- What the check sees and counts below a node. -/
def marksBelow (n : Node) : List (Int × Option Position) :=
  countedMarks (Site.visits [n] n.children)

theorem mem_visits_children_iff {n : Node} {t : Site} :
    t ∈ Site.visits [n] n.children ↔ Relation.TransGen Site.HasChild n.top t := by
  rw [Site.visits, List.mem_flatMap, Relation.TransGen.head'_iff]
  constructor
  · rintro ⟨c, hc, ht⟩
    exact ⟨n.top.under c, Site.under_mem_children hc, Site.mem_visit_iff.mp ht⟩
  · rintro ⟨u, hu, ht⟩
    obtain ⟨c, hc, rfl⟩ := List.mem_map.mp hu
    exact ⟨c, hc, Site.mem_visit_iff.mpr ht⟩

/-- Whatever stands below a node that holds no statement counts for its own line. -/
theorem countedLine?_of_mem_visits {n : Node} {t : Site} (hn : n.HoldsNoStatement)
    (ht : t ∈ Site.visits [n] n.children) : countedLine? t = t.node.line? := by
  obtain ⟨u, hu, htu⟩ := Relation.TransGen.tail'_iff.mp (mem_visits_children_iff.mp ht)
  obtain ⟨c, hc, rfl⟩ := List.mem_map.mp htu
  have hparent : u.node ∈ n.walk := Node.mem_walk_iff.mpr (Node.reflTransGen_of_sites hu)
  have hchild : c ∈ n.walk := Node.mem_walk_iff.mpr ((Node.mem_walk_iff.mp hparent).tail hc)
  have hhint : isVariableHint (u.under c) = false := by
    have hkind : u.node.kind ≠ .annAssign := fun heq => hn u.node hparent (by rw [heq]; rfl)
    rw [Site.under, isVariableHint_under, beq_false_of_ne hkind]
    rfl
  have hplain : c.isAny [.classDef, .functionDef, .asyncFunctionDef] = false := by
    rw [← Bool.not_eq_true, Node.isAny_iff]
    intro hmem
    refine hn c hchild ?_
    generalize c.kind = kind at hmem
    revert kind
    decide
  rw [countedLine?, hhint, Site.under, hplain]
  rfl

theorem countP_marksBelow {n : Node} (hn : n.HoldsNoStatement) (l : Int) :
    (marksBelow n).countP (fun mark => mark.1 == l) = n.countBelow l := by
  have hnodes : ((Site.visits [n] n.children).map Site.node).Perm
      (n.children.flatMap Node.walk) := by
    rw [Site.visits, List.map_flatMap]
    refine List.Perm.flatMap_left _ fun c _ => ?_
    rw [← Site.map_node_walk ⟨c, [n]⟩]
    exact (Site.walk_perm_visit _).symm.map Site.node
  have hlines : (Site.visits [n] n.children).countP (fun t => countedLine? t == some l) =
      (Site.visits [n] n.children).countP fun t => t.node.line? == some l :=
    List.countP_congr fun t ht => by rw [countedLine?_of_mem_visits hn ht]
  rw [marksBelow, countP_countedMarks, hlines, Node.countBelow, ← hnodes.countP_eq, List.countP_map]
  rfl

/-! ### A declaration -/

/-- What the check counts in a declaration: the declaration, what stands in it before and after the
hint, and what stands below the hint, but not the hint. -/
theorem countedMarks_declaration {p hint : Node} {older younger above : List Node}
    (hchildren : p.children = older ++ hint :: younger) (hnodup : (p.children.map Node.id).Nodup)
    (hkind : p.kind = .annAssign) (hline : p.line?.isSome = true) (hhint : p.hint? = some hint) :
    countedMarks (⟨p, above⟩ : Site).visit =
      countedMarks [⟨p, above⟩] ++ countedMarks (Site.visits [] older) ++ marksBelow hint ++
        countedMarks (Site.visits [] younger) := by
  have htest (n : Node) : isVariableHint ⟨n, p :: above⟩ = (hint.id == n.id) := by
    rw [isVariableHint_under, hkind, hline, hhint]
    rfl
  have hothers {part : List Node} (hpart : part ⊆ older ++ younger) :
      countedMarks (Site.visits (p :: above) part) = countedMarks (Site.visits [] part) := by
    rw [hchildren, List.map_append, List.map_cons, List.nodup_middle, List.nodup_cons,
      ← List.map_append] at hnodup
    refine congrArg (List.filterMap countedMark?) (map_lineMark_visits fun d hd => ?_)
    have hne : hint.id ≠ d.id := fun heq => hnodup.1 (heq ▸ List.mem_map_of_mem (hpart hd))
    rw [htest, beq_false_of_ne hne]
    rfl
  have hbelow : countedMarks (⟨hint, p :: above⟩ : Site).visit = marksBelow hint := by
    have htop : countedMarks [⟨hint, p :: above⟩] = [] := by
      have hnone : countedLine? ⟨hint, p :: above⟩ = none := by
        rw [countedLine?, htest, beq_self_eq_true, Bool.or_true, if_pos rfl]
      simp [countedMarks, countedMark?, lineMark, hnone]
    rw [Site.visit_eq_cons, ← List.singleton_append, countedMarks_append, htop, List.nil_append]
    exact countedMarks_congr (Site.map_face_visits rfl _ _ _)
  rw [Site.visit_eq_append hchildren, ← List.singleton_append, countedMarks_append,
    countedMarks_append, countedMarks_append, hbelow, hothers (List.subset_append_left _ _),
    hothers (List.subset_append_right _ _)]

/-- **Another hint changes one part** of what the check counts: what stands below the hint. The
declaration comes before that part if it counts. -/
theorem exists_countedMarks {q q' : Program} {s : Site} {hint hint' : Node} (hs : s ∈ q.walk)
    (hkind : s.node.kind = .annAssign) (hline : s.node.line?.isSome = true)
    (hhint : s.node.hint? = some hint) (hq' : q'.root = (s.under hint).replace hint') :
    ∃ before after, countedMarks q.sites = before ++ marksBelow hint ++ after ∧
      countedMarks q'.sites = before ++ marksBelow hint' ++ after ∧
      ∀ l, countedLine? s = some l → ∃ mark ∈ before, mark.1 = l := by
  obtain ⟨before, after, hsites, hreplaced⟩ := Program.exists_visit_replace hs
  obtain ⟨above, before', after', hvisit, hbefore, hafter, habove⟩ :=
    hreplaced (s.node.withChild hint hint') rfl
  obtain ⟨older, younger, hchildren⟩ := List.append_of_mem (Node.mem_children_of_hint? hhint)
  have hsites' : q'.sites =
      before' ++ (⟨s.node.withChild hint hint', above⟩ : Site).visit ++ after' := by
    rw [← hvisit, Program.sites, hq']
    rfl
  have hs' : ⟨s.node.withChild hint hint', above⟩ ∈ q'.walk := by
    rw [Program.mem_walk_iff_mem_sites, hsites']
    exact List.mem_append_left _ (List.mem_append_right _ (Site.mem_visit_self _))
  have hchildren' : (s.node.withChild hint hint').children = older ++ hint' :: younger :=
    Node.children_withChild hchildren (Program.nodup_child_ids hs)
  have hkind' : (s.node.withChild hint hint').kind = .annAssign :=
    (Shape.kind_map _ _).trans hkind
  have hhint' : (s.node.withChild hint hint').hint? = some hint' := by
    rw [Node.hint?_withChild, hhint, Option.map_some, if_pos (Node.is_iff.mpr rfl)]
  have htop : lineMark ⟨s.node.withChild hint hint', above⟩ = lineMark s := by
    simp only [lineMark, countedLine?, Node.isAny, isVariableHint_eq, hkind', hkind, habove]
    rfl
  refine ⟨countedMarks before ++ (countedMarks [s] ++ countedMarks (Site.visits [] older)),
    countedMarks (Site.visits [] younger) ++ countedMarks after, ?_, ?_, fun l hl => ?_⟩
  · rw [hsites, countedMarks_append, countedMarks_append,
      countedMarks_declaration hchildren (Program.nodup_child_ids hs) hkind hline hhint]
    simp only [List.append_assoc]
  · rw [hsites', countedMarks_append, countedMarks_append, countedMarks_congr hbefore,
      countedMarks_congr hafter,
      countedMarks_declaration hchildren' (Program.nodup_child_ids hs') hkind' hline hhint']
    simp only [countedMarks, List.map_cons, htop, List.append_assoc]
  · refine ⟨(l, s.node.position), List.mem_append_right _ (List.mem_append_left _ ?_), rfl⟩
    simp [countedMarks, countedMark?, lineMark, hl]

/-! ### Reports -/

/-- How many sites count for a line, and which one is the first, can be read off the marks. -/
theorem length_lineSites_eq_countP (q : Program) (l : Int) :
    (q.lineSites l).length = (countedMarks q.sites).countP fun mark => mark.1 == l := by
  rw [countP_countedMarks, List.countP_eq_length_filter]
  rfl

theorem length_lineSites_eq_count (q : Program) (l : Int) :
    (q.lineSites l).length = ((countedMarks q.sites).map Prod.fst).count l := by
  rw [length_lineSites_eq_countP, List.count, List.countP_map]
  rfl

theorem find?_countedMarks (q : Program) (l : Int) :
    ((countedMarks q.sites).find? fun mark => mark.1 == l) =
      (q.lineSites l).head?.map fun s => (l, s.node.position) := by
  rw [Program.lineSites, List.head?_filter]
  generalize q.sites = sites
  induction sites with
  | nil => rfl
  | cons s rest ih =>
    cases h : countedLine? s with
    | none =>
      have hmarks : countedMarks (s :: rest) = countedMarks rest :=
        List.filterMap_cons_none (by simp [countedMark?, lineMark, h])
      rw [hmarks, ih, List.find?_cons_of_neg (by simp [h])]
    | some k =>
      have hmarks : countedMarks (s :: rest) = (k, s.node.position) :: countedMarks rest :=
        List.filterMap_cons_some (by simp [countedMark?, lineMark, h])
      rw [hmarks]
      by_cases hk : k = l
      · rw [List.find?_cons_of_pos (by simp [hk]), List.find?_cons_of_pos (by simp [h, hk]), hk]
        rfl
      · rw [List.find?_cons_of_neg (by simp [hk]), List.find?_cons_of_neg (by simp [h, hk]), ih]

theorem map_length_linesOf (q : Program) :
    (linesOf q.sites).map (fun line => line.2.length) =
      ((countedMarks q.sites).map Prod.fst).eraseDups.map
        ((countedMarks q.sites).map Prod.fst).count := by
  rw [q.linesOf_eq, List.map_map, ← map_fst_countedMarks]
  exact List.map_congr_left fun l _ => length_lineSites_eq_count q l

/-- What is reported about lines is made of the marks. -/
theorem lineCounts_eq_flatMap (o : Options) (q : Program) :
    lineCounts o q.sites = ((countedMarks q.sites).map Prod.fst).eraseDups.flatMap fun l =>
      ((countedMarks q.sites).find? fun mark => mark.1 == l).toList.flatMap fun mark =>
        reportIf
          (o.maxLineComplexity.isExceededBy (((countedMarks q.sites).map Prod.fst).count l))
          ⟨.lineComplexity, (Violation.lineComplexity.place? mark.2).getD fileStart,
            toString (((countedMarks q.sites).map Prod.fst).count l)⟩ := by
  rw [lineCounts, q.linesOf_eq, List.flatMap_map, ← map_fst_countedMarks]
  refine List.flatMap_congr fun l _ => ?_
  rw [find?_countedMarks, Option.toList_map, List.flatMap_map, ← length_lineSites_eq_count]
  rfl

theorem lineComplexity_congr (o : Options) {q q' : Program}
    (hlines : (countedMarks q'.sites).map Prod.fst = (countedMarks q.sites).map Prod.fst)
    (hfirst : ∀ l, ((countedMarks q'.sites).find? fun mark => mark.1 == l) =
      (countedMarks q.sites).find? fun mark => mark.1 == l) :
    lineComplexity o q'.sites = lineComplexity o q.sites := by
  simp only [lineComplexity, moduleScore, lineCounts_eq_flatMap, map_length_linesOf, hlines, hfirst]

/-- Marks of one line may be exchanged for as many others of that line if one comes before them. -/
theorem lineComplexity_eq_of_marks (o : Options) {q q' : Program} {l : Int}
    {before below below' after : List (Int × Option Position)}
    (h : countedMarks q.sites = before ++ below ++ after)
    (h' : countedMarks q'.sites = before ++ below' ++ after)
    (hbelow : ∀ mark ∈ below, mark.1 = l) (hbelow' : ∀ mark ∈ below', mark.1 = l)
    (hlength : below'.length = below.length)
    (hbefore : below ≠ [] → ∃ mark ∈ before, mark.1 = l) :
    lineComplexity o q'.sites = lineComplexity o q.sites := by
  refine lineComplexity_congr o ?_ fun other => ?_
  · have hsame : below'.map Prod.fst = below.map Prod.fst := by
      rw [List.map_eq_replicate_iff.mpr hbelow', List.map_eq_replicate_iff.mpr hbelow, hlength]
    rw [h, h', List.map_append, List.map_append, List.map_append, List.map_append, hsame]
  · simp only [h, h', List.find?_append]
    cases hfind : before.find? fun mark => mark.1 == other with
    | some mark => rfl
    | none =>
      -- what does not come before is not among the exchanged marks
      have hnone {part : List (Int × Option Position)} (hpart : ∀ mark ∈ part, mark.1 = l)
          (hlength : part.length = below.length) :
          (part.find? fun mark => mark.1 == other) = none := by
        rw [List.find?_eq_none] at hfind ⊢
        intro mark hmark heq
        have hne : below ≠ [] := by
          rw [← List.length_pos_iff, ← hlength]
          exact List.length_pos_of_mem hmark
        obtain ⟨first, hfirst, hkey⟩ := hbefore hne
        refine hfind first hfirst ?_
        rwa [hkey, ← hpart mark hmark]
      rw [hnone hbelow' hlength, hnone hbelow rfl]

section OneLine

variable {n : Node} {key : Option Int}

theorem eq_some_of_mem_marksBelow (hn : n.HoldsNoStatement)
    (h : ∀ l, n.countBelow l ≠ 0 → key = some l) : ∀ mark ∈ marksBelow n, key = some mark.1 := by
  intro mark hmark
  refine h mark.1 ?_
  rw [← countP_marksBelow hn, Nat.ne_zero_iff_zero_lt, List.countP_pos_iff]
  exact ⟨mark, hmark, beq_self_eq_true _⟩

theorem length_marksBelow (hn : n.HoldsNoStatement)
    (h : ∀ l, n.countBelow l ≠ 0 → key = some l) :
    (marksBelow n).length = key.elim 0 n.countBelow := by
  have hkey := eq_some_of_mem_marksBelow hn h
  cases key with
  | none =>
    rw [Option.elim_none, List.length_eq_zero_iff, List.eq_nil_iff_forall_not_mem]
    intro mark hmark
    cases hkey mark hmark
  | some l =>
    rw [Option.elim_some, ← countP_marksBelow hn, eq_comm, List.countP_eq_length]
    intro mark hmark
    rw [Option.some.inj (hkey mark hmark), beq_self_eq_true]

end OneLine

/-- **Another hint for a variable.** If the hint of a declaration is replaced by another one, the
count of every line changes by the difference of what stands below the two hints on that line. So
all counts stay as they are exactly if equally many nodes stand below the hints on every line. Then
nothing else is reported if all these nodes are on the line for which the declaration counts, as it
is if there are none. -/
theorem lineComplexity_counts_below_hints (subject : Subject) (memory : Memory) (s : Site)
    (hint hint' : Node) (replaced : Program) (hs : s ∈ subject.program.sites)
    (hkind : s.node.kind = .annAssign) (hline : s.node.line?.isSome = true)
    (hhint : s.node.hint? = some hint) (hplain : hint.HoldsNoStatement)
    (hplain' : hint'.HoldsNoStatement) (hreplaced : replaced.root = (s.under hint).replace hint') :
    (∀ l, (replaced.lineSites l).length + hint.countBelow l =
      (subject.program.lineSites l).length + hint'.countBelow l) ∧
    ((∀ l, (replaced.lineSites l).length = (subject.program.lineSites l).length) ↔
      ∀ l, hint'.countBelow l = hint.countBelow l) ∧
    ((∀ l, hint'.countBelow l = hint.countBelow l) →
      (∀ l, hint.countBelow l ≠ 0 → countedLine? s = some l) →
      (Check.lineComplexity.judge { subject with program := replaced } memory).1 =
        (Check.lineComplexity.judge subject memory).1) := by
  obtain ⟨before, after, hmarks, hmarks', hfirst⟩ := exists_countedMarks
    (Program.mem_walk_iff_mem_sites.mpr hs) hkind hline hhint hreplaced
  have hcounts (l : Int) : (replaced.lineSites l).length + hint.countBelow l =
      (subject.program.lineSites l).length + hint'.countBelow l := by
    rw [length_lineSites_eq_countP, length_lineSites_eq_countP, hmarks, hmarks']
    simp only [List.countP_append, countP_marksBelow hplain, countP_marksBelow hplain']
    omega
  refine ⟨hcounts, forall_congr' fun l => ?_, fun hsame honly => ?_⟩
  · have := hcounts l
    omega
  · have honly' (l : Int) (hl : hint'.countBelow l ≠ 0) : countedLine? s = some l :=
      honly l (hsame l ▸ hl)
    have hlength : (marksBelow hint').length = (marksBelow hint).length := by
      rw [length_marksBelow hplain honly, length_marksBelow hplain' honly']
      exact congrArg _ (funext hsame)
    -- all marks below the hints have the line of the declaration
    have hkey := eq_some_of_mem_marksBelow hplain honly
    have hkey' := eq_some_of_mem_marksBelow hplain' honly'
    have hfindings := lineComplexity_eq_of_marks (l := (countedLine? s).getD 0) subject.options
      hmarks hmarks' (fun mark hmark => by rw [hkey mark hmark, Option.getD_some])
      (fun mark hmark => by rw [hkey' mark hmark, Option.getD_some]) hlength ?_
    · exact congrArg Report.ofFindings hfindings
    · intro hne
      obtain ⟨mark, hmark⟩ := List.exists_mem_of_ne_nil _ hne
      rw [hkey mark hmark, Option.getD_some]
      exact hfirst mark.1 (hkey mark hmark)

/-- The declaration `total: ... = first + second` with the given hint. -/
def hintedSum (hint : Node) : Node :=
  .mk 1 (some ⟨1, 0⟩) (.annAssign (variableAt 2 1 0 "total" .store) hint
    (some (.mk 4 (some ⟨1, 19⟩) (.binary (variableAt 5 1 19 "first" .load) .add
      (variableAt 6 1 27 "second" .load)))))

/-- The place of the declaration in a file of its own. -/
def hintedSite (hint : Node) : Site :=
  ⟨hintedSum hint, [.mk 0 none (.file [hintedSum hint])]⟩

/-- The hint `int`. -/
def intHint : Node :=
  variableAt 3 1 7 "int" .load

/-- The hint `List[int]`. -/
def intListHint : Node :=
  .mk 7 (some ⟨1, 7⟩) (.subscript (variableAt 8 1 7 "List" .load) (variableAt 9 1 12 "int" .load)
    (some .load))

/-- The hint `Set[str]`. -/
def setHint : Node :=
  .mk 10 (some ⟨1, 7⟩) (.subscript (variableAt 11 1 7 "Set" .load)
    (variableAt 12 1 11 "str" .load) (some .load))

/-- The declaration with the hint `int`, and limits that it keeps. -/
def intSubject : Subject :=
  ⟨{ root := .mk 0 none (.file [hintedSum intHint]), distinct := by decide }, [], "sum.py",
    { Options.initial with
      maxLineComplexity := ⟨.whole 5, .ofInt 5, rfl, by decide⟩
      maxJonesScore := ⟨.whole 12, .ofInt 12, rfl, by decide⟩ }⟩

/-- The declaration after `int` is replaced by `List[int]`. -/
def intListProgram : Program :=
  ⟨((hintedSite intHint).under intHint).replace intListHint, by decide⟩

/-- The declaration after `List[int]` is replaced by `Set[str]`. -/
def setProgram : Program :=
  ⟨((hintedSite intListHint).under intListHint).replace setHint, by decide⟩

theorem hintedSite_mem_intListProgram : hintedSite intListHint ∈ intListProgram.sites :=
  .tail _ (.head _)

theorem lineComplexity_counts_below_hints_setHint :
    hintedSite intListHint ∈ intListProgram.sites ∧ intListHint.HoldsNoStatement ∧
      setHint.HoldsNoStatement ∧
      setProgram.root = ((hintedSite intListHint).under intListHint).replace setHint ∧
      (Check.lineComplexity.judge { intSubject with program := setProgram } {}).1 =
        (Check.lineComplexity.judge { intSubject with program := intListProgram } {}).1 := by
  have hplain : intListHint.HoldsNoStatement := by decide
  have hplain' : setHint.HoldsNoStatement := by decide
  have hcount (l : Int) : setHint.countBelow l = intListHint.countBelow l := rfl
  have hline (l : Int) (hl : intListHint.countBelow l ≠ 0) :
      countedLine? (hintedSite intListHint) = some l := by
    obtain ⟨m, hm, hml⟩ := List.countP_pos_iff.mp (Nat.pos_of_ne_zero hl)
    have hfirst : ∀ m ∈ intListHint.children.flatMap Node.walk, m.line? = some 1 := by decide
    exact (hfirst m hm).symm.trans (beq_iff_eq.mp hml)
  obtain ⟨-, -, hreport⟩ := lineComplexity_counts_below_hints
    { intSubject with program := intListProgram } {} (hintedSite intListHint) intListHint setHint
    setProgram hintedSite_mem_intListProgram rfl rfl rfl hplain hplain' rfl
  exact ⟨hintedSite_mem_intListProgram, hplain, hplain', rfl, hreport hcount hline⟩

/-- The hint does count: all of `List[int]` is on the line of `int`, which it replaces, but the line
counts two nodes more and becomes too complex. -/
theorem lineComplexity_counts_intListHint :
    hintedSite intHint ∈ intSubject.program.sites ∧
      intListProgram.root = ((hintedSite intHint).under intHint).replace intListHint ∧
      (∀ m ∈ intListHint.walk, m.line? = intHint.line?) ∧
      (intSubject.program.lineSites 1).length = 5 ∧ (intListProgram.lineSites 1).length = 7 ∧
      (Check.lineComplexity.judge intSubject {}).1.findings = [] ∧
      (Check.lineComplexity.judge { intSubject with program := intListProgram } {}).1.findings =
        [Violation.lineComplexity.atNode (hintedSum intListHint) "7"] := by
  have hscore : moduleScore intSubject.program.sites = ⟨10, false⟩ :=
    IsMedian.median_eq ⟨[5], .refl _, List.pairwise_singleton _ 5, [], [], rfl, .inl ⟨5, rfl, rfl⟩⟩
  have hscore' : moduleScore intListProgram.sites = ⟨14, false⟩ :=
    IsMedian.median_eq ⟨[7], .refl _, List.pairwise_singleton _ 7, [], [], rfl, .inl ⟨7, rfl, rfl⟩⟩
  have hfindings (q : Program) :
      (Check.lineComplexity.judge { intSubject with program := q } {}).1 =
        .ofFindings (lineComplexity intSubject.options q.sites) := rfl
  refine ⟨.tail _ (.head _), rfl, by decide, rfl, rfl, ?_, ?_⟩
  · rw [hfindings intSubject.program, lineComplexity, hscore]
    rfl
  · rw [hfindings, lineComplexity, hscore']
    rfl

end Stricture
