import Mathlib.Data.Set.Card
import Stricture.Proofs.Function.Mentions
import Stricture.Proofs.Scope.Binders

/-!
# Local variables

The local variables of a function are the names that its body stores, those of inner functions
included. What a comprehension binds is gone after it, so names in the target of a comprehension are
not meant to count (`Program.HasLocal`). The rule asks for the parent of a name only, and skips a
name that stands in a comprehension itself. A target may be larger than a name: what is stored
inside of a tuple, a list or a starred item counts (`Program.BindsInside`).

So the number that is compared with the limit is the number of names of either sort
(`Program.countsLocal_iff`). It is the number of local variables exactly if every name inside of a
larger target is stored outside of targets too.
-/

namespace Stricture

open Rules

/-- The number of things that a list holds without repetition is its length. -/
theorem ncard_setOf_eq_length {α : Type} {P : α → Prop} {things : List α} (hnodup : things.Nodup)
    (hmem : ∀ a, a ∈ things ↔ P a) : {a | P a}.ncard = things.length := by
  classical
  have hset : {a | P a} = ↑things.toFinset := by
    ext a
    rw [List.coe_toFinset]
    exact (hmem a).symm
  rw [hset, Set.ncard_coe_finset, List.toFinset_card_of_nodup hnodup]

/-! ### Names that are stored -/

namespace Node

/-- A name that is stored. -/
def Stores (n : Node) (v : String) : Prop :=
  n.shape = .name v (some .store)

/-- `t` is the target of the comprehension `c`. -/
def IsTargetOf (t c : Node) : Prop :=
  ∃ iter conditions mode, c.shape = .comprehension t iter conditions mode

theorem IsTargetOf.mem_children {t c : Node} (h : t.IsTargetOf c) : t ∈ c.children := by
  obtain ⟨iter, conditions, mode, hshape⟩ := h
  exact mem_children_of_shape hshape List.mem_cons_self

theorem IsTargetOf.kind_eq {t c : Node} (h : t.IsTargetOf c) : c.kind = .comprehension := by
  obtain ⟨iter, conditions, mode, hshape⟩ := h
  rw [kind, hshape]
  rfl

theorem exists_comprehension {c : Node} (h : c.kind = .comprehension) :
    ∃ target iter conditions mode, c.shape = .comprehension target iter conditions mode := by
  obtain ⟨id, position, shape⟩ := c
  cases shape with
  | comprehension target iter conditions mode => exact ⟨target, iter, conditions, mode, rfl⟩
  | functionDef mode | forLoop mode | withBlock mode => cases mode <;> cases h
  | _ => cases h

end Node

namespace Program

/-- The node is the target of a comprehension, or stands inside of one. -/
def InTarget (q : Program) (n : Node) : Prop :=
  ∃ c ∈ q.root.walk, ∃ t : Node, t.IsTargetOf c ∧ n ∈ t.walk

/-- A local variable of `f`: its body stores the name outside of the targets of comprehensions, and
the name says something. -/
def HasLocal (q : Program) (f : Node) (v : String) : Prop :=
  ¬ Name.IsUnderscores v ∧ ∃ n ∈ f.bodyWalk, n.Stores v ∧ ¬ q.InTarget n

/-- The body of `f` stores the name inside of a target that is more than a name. -/
def BindsInside (q : Program) (f : Node) (v : String) : Prop :=
  ¬ Name.IsUnderscores v ∧
    ∃ n ∈ f.bodyWalk, n.Stores v ∧ q.InTarget n ∧ ∀ c ∈ q.root.walk, ¬ n.IsTargetOf c

/-- The body of `f` stores the name, and not as a part of a comprehension itself. -/
def CountsLocal (q : Program) (f : Node) (v : String) : Prop :=
  ¬ Name.IsUnderscores v ∧
    ∃ n ∈ f.bodyWalk, n.Stores v ∧ ∀ c ∈ q.root.walk, n ∈ c.children → c.kind ≠ .comprehension

/-- What comprehensions go over and what they test is not stored. -/
def ReadsSources (q : Program) : Prop :=
  ∀ c ∈ q.root.walk, ∀ target iter conditions mode,
    c.shape = .comprehension target iter conditions mode →
      ∀ n ∈ iter :: conditions, ∀ v, ¬ n.Stores v

variable {q : Program} {s t : Site} {f n : Node} {v : String}

/-- A stored name that stands in a comprehension itself is its target. -/
theorem ReadsSources.isTargetOf {c : Node} (h : q.ReadsSources) (hc : c ∈ q.root.walk)
    (hkind : c.kind = .comprehension) (hn : n ∈ c.children) (hstores : n.Stores v) :
    n.IsTargetOf c := by
  obtain ⟨target, iter, conditions, mode, hshape⟩ := Node.exists_comprehension hkind
  rw [Node.children, hshape] at hn
  rcases List.mem_cons.mp hn with rfl | hsource
  · exact ⟨iter, conditions, mode, hshape⟩
  · exact absurd hstores (h c hc target iter conditions mode hshape n hsource v)

/-- **What counts**: the local variables, and the names inside of larger targets. -/
theorem countsLocal_iff (h : q.ReadsSources) :
    q.CountsLocal f v ↔ q.HasLocal f v ∨ q.BindsInside f v := by
  rw [CountsLocal, HasLocal, BindsInside, ← and_or_left, ← exists_or]
  refine and_congr_right fun _ => exists_congr fun n => ?_
  rw [← and_or_left, ← and_or_left]
  refine and_congr_right fun _ => and_congr_right fun hstores => ?_
  constructor
  · intro hcounts
    by_cases htarget : q.InTarget n
    · exact .inr ⟨htarget, fun c hc hof => hcounts c hc hof.mem_children hof.kind_eq⟩
    · exact .inl htarget
  · rintro (houtside | ⟨-, hinside⟩) c hc hn hkind
    · exact houtside ⟨c, hc, n, h.isTargetOf hc hkind hn hstores, n.mem_walk_self⟩
    · exact hinside c hc (h.isTargetOf hc hkind hn hstores)

/-! ### What the rule lists -/

/-- The sites in the body of a function are those of the nodes in its body. -/
theorem mem_bodySites_iff (hs : s ∈ q.walk) :
    t ∈ bodySites s ↔ t ∈ q.walk ∧ t.node ∈ s.node.bodyWalk := by
  have hunder {c : Node} (hc : c ∈ s.node.body) : s.under c ∈ q.walk :=
    under_mem_walk hs (Node.mem_children_of_mem_body hc)
  rw [bodySites, Node.bodyWalk, List.mem_flatMap, List.mem_flatMap]
  constructor
  · rintro ⟨c, hc, ht⟩
    exact ⟨mem_walk_of_mem_site_walk (hunder hc) ht, c, hc, node_mem_walk_of_mem_walk ht⟩
  · rintro ⟨ht, c, hc, hnode⟩
    have hnodes : c.walk = (s.under c).walk.map Site.node := (s.under c).map_node_walk.symm
    rw [hnodes] at hnode
    obtain ⟨u, hu, hnode⟩ := List.mem_map.mp hnode
    obtain rfl := eq_of_node_eq (mem_walk_of_mem_site_walk (hunder hc) hu) ht hnode
    exact ⟨c, hc, hu⟩

theorem parentIsAny_iff {kinds : List Kind} (hs : s ∈ q.walk) :
    s.parentIsAny kinds = true ↔ ∃ p ∈ q.root.walk, s.node ∈ p.children ∧ p.kind ∈ kinds := by
  rw [Site.parentIsAny, Option.any_eq_true]
  constructor
  · rintro ⟨p, hp, hkind⟩
    obtain ⟨hwalk, hchild⟩ := (parent?_eq_some_iff hs).mp (congrArg (Option.map Site.node) hp)
    exact ⟨p.node, hwalk, hchild, Node.isAny_iff.mp hkind⟩
  · rintro ⟨p, hwalk, hchild, hkind⟩
    obtain ⟨t, ht, rfl⟩ := Option.map_eq_some_iff.mp ((parent?_eq_some_iff hs).mpr ⟨hwalk, hchild⟩)
    exact ⟨t, ht, Node.isAny_iff.mpr hkind⟩

theorem storedName?_eq_some_iff (hs : s ∈ q.walk) :
    storedName? s = some v ↔ s.node.Stores v ∧ ¬ Name.IsUnderscores v ∧
      ∀ c ∈ q.root.walk, s.node ∈ c.children → c.kind ≠ .comprehension := by
  have hparent : s.parentIsAny [.comprehension] = false ↔
      ∀ c ∈ q.root.walk, s.node ∈ c.children → c.kind ≠ .comprehension := by
    rw [← Bool.not_eq_true, parentIsAny_iff hs]
    simp only [List.mem_singleton, not_exists, not_and]
  unfold storedName? Node.Stores
  split
  case h_1 id hshape =>
    rw [hshape, Option.ite_none_left_eq_some, Bool.not_eq_true, Bool.or_eq_false_iff, hparent,
      Name.isUnused_eq_false_iff, Option.some.injEq, Shape.name.injEq]
    constructor
    · rintro ⟨⟨hname, hcounts⟩, rfl⟩
      exact ⟨⟨rfl, rfl⟩, hname, hcounts⟩
    · rintro ⟨⟨rfl, -⟩, hname, hcounts⟩
      exact ⟨⟨hname, hcounts⟩, rfl⟩
  case h_2 hother =>
    constructor
    · intro h
      cases h
    · rintro ⟨hshape, -⟩
      exact absurd hshape (hother v)

theorem mem_localVariables_iff (hs : s ∈ q.walk) :
    v ∈ localVariables s ↔ q.CountsLocal s.node v := by
  rw [localVariables, List.mem_eraseDups, List.mem_filterMap, CountsLocal]
  constructor
  · rintro ⟨t, ht, hname⟩
    obtain ⟨hwalk, hbody⟩ := (mem_bodySites_iff hs).mp ht
    obtain ⟨hstores, hused, hcounts⟩ := (storedName?_eq_some_iff hwalk).mp hname
    exact ⟨hused, t.node, hbody, hstores, hcounts⟩
  · rintro ⟨hused, n, hbody, hstores, hcounts⟩
    obtain ⟨c, hc, hn⟩ := List.mem_flatMap.mp hbody
    have hc := child_mem_walk (node_mem_walk hs) (Node.mem_children_of_mem_body hc)
    obtain ⟨t, ht, rfl⟩ := exists_site (mem_walk_of_mem_walk hc hn)
    exact ⟨t, (mem_bodySites_iff hs).mpr ⟨ht, hbody⟩,
      (storedName?_eq_some_iff ht).mpr ⟨hstores, hused, hcounts⟩⟩

/-- The count of a function is the number of distinct names that count. -/
theorem count_locals (hs : s ∈ q.walk) :
    FunctionMeasure.locals.count s = {v | q.CountsLocal s.node v}.ncard :=
  (ncard_setOf_eq_length (nodup_eraseDups _) fun _ => mem_localVariables_iff hs).symm

/-- The count is right if what stands inside of larger targets does not add a name. -/
theorem count_locals_eq_iff (h : q.ReadsSources) (hs : s ∈ q.walk) :
    FunctionMeasure.locals.count s = {v | q.HasLocal s.node v}.ncard ↔
      ∀ v, q.BindsInside s.node v → q.HasLocal s.node v := by
  have hsubset : {v | q.HasLocal s.node v} ⊆ {v | q.CountsLocal s.node v} :=
    fun v hv => (countsLocal_iff h).mpr (.inl hv)
  rw [count_locals hs]
  constructor
  · intro heq v hinside
    have hfinite : {v | q.CountsLocal s.node v}.Finite :=
      (List.finite_toSet (localVariables s)).subset fun v hv => (mem_localVariables_iff hs).mpr hv
    have hsets := Set.eq_of_subset_of_ncard_le hsubset heq.le hfinite
    have hcounts : v ∈ {v | q.CountsLocal s.node v} := (countsLocal_iff h).mpr (.inr hinside)
    rwa [← hsets] at hcounts
  · intro hinside
    have hsets : {v | q.CountsLocal s.node v} = {v | q.HasLocal s.node v} :=
      hsubset.antisymm' fun v hv => ((countsLocal_iff h).mp hv).elim id (hinside v)
    rw [hsets]

end Program

/-! ### What is reported -/

namespace Rules.FunctionMeasure

theorem mem_all (m : FunctionMeasure) : m ∈ all := by
  cases m <;> decide

/-- Every measure has a violation of its own. -/
theorem violation_injective : Function.Injective violation := by
  have hall : ∀ m ∈ all, ∀ k ∈ all, m.violation = k.violation → m = k := by decide
  intro m k h
  exact hall m (mem_all m) k (mem_all k) h

/-- **What is reported of one measure**: the functions whose count is over the limit, in visiting
order, each with its count. -/
theorem filter_functionSizes (o : Options) (sites : List Site) (m : FunctionMeasure) :
    (functionSizes o sites).filter (fun x => x.violation = m.violation) =
      ((sites.filter fun s => m.applies s).filter fun s =>
        (m.limit o).isExceededBy (m.count s)).map fun s =>
          m.violation.atNode s.node (toString (m.count s)) := by
  have hmeasure (k : FunctionMeasure) :
      ((sites.filter fun s => k.applies s).flatMap fun s =>
          overLimit k.violation (k.limit o) s.node (k.count s)).filter
        (fun x => x.violation = m.violation) =
      if decide (k = m) then (sites.filter fun s => k.applies s).flatMap fun s =>
        overLimit k.violation (k.limit o) s.node (k.count s) else [] := by
    rw [List.filter_flatMap]
    simp only [overLimit, filter_reportIf, violation_injective.eq_iff, decide_eq_true_eq]
    split <;> simp
  have honce : all.filter (fun k => decide (k = m)) = [m] := by
    cases m <;> decide
  rw [functionSizes, List.filter_flatMap, List.flatMap_congr fun k _ => hmeasure k,
    flatMap_ite_nil, honce, List.flatMap_singleton]
  exact flatMap_reportIf _ _ _

end Rules.FunctionMeasure

/-- **The number of local variables** that is compared with the limit is the number of distinct
names that a body stores outside of targets, or inside of a target that is more than a name. Only if
the latter are among the former, it is the number of local variables. -/
theorem functionSizes_counts_locals (subject : Subject) (memory : Memory) :
    (Check.functionSizes.judge subject memory).1.fault = none ∧
    (Check.functionSizes.judge subject memory).1.findings.filter
        (fun x => x.violation = .tooManyLocals) =
      ((subject.program.sites.filter fun s => s.node.isFunction).filter fun s =>
        subject.options.maxLocalVariables.isExceededBy (FunctionMeasure.locals.count s)).map
          (fun s => Violation.tooManyLocals.atNode s.node
            (toString (FunctionMeasure.locals.count s))) ∧
    ∀ s ∈ subject.program.sites,
      FunctionMeasure.locals.count s = {v | subject.program.CountsLocal s.node v}.ncard ∧
      (subject.program.ReadsSources →
        (∀ v, subject.program.CountsLocal s.node v ↔
          subject.program.HasLocal s.node v ∨ subject.program.BindsInside s.node v) ∧
        (FunctionMeasure.locals.count s = {v | subject.program.HasLocal s.node v}.ncard ↔
          ∀ v, subject.program.BindsInside s.node v → subject.program.HasLocal s.node v)) := by
  refine ⟨rfl, FunctionMeasure.filter_functionSizes _ _ .locals, fun s hs => ?_⟩
  have hwalk := Program.mem_walk_iff_mem_sites.mpr hs
  refine ⟨Program.count_locals hwalk, fun hreads => ⟨fun v => Program.countsLocal_iff hreads, ?_⟩⟩
  exact Program.count_locals_eq_iff hreads hwalk

/-! ### Samples -/

/-- What stores a name in a list of nodes is among those that bind one. -/
theorem Node.Stores.mem_of_filter {nodes listed : List Node} {n : Node} {v : String}
    (h : n.Stores v) (hn : n ∈ nodes) (hlisted : nodes.filter bindsMentioned = listed) :
    n ∈ listed := by
  have hbinds : n.BindsVariable v := .inl h
  rw [← hlisted]
  exact List.mem_filter.mpr ⟨hn, (bindsMentioned_iff hbinds.mentionsVariable).mpr hbinds⟩

/-- A row is bound by a comprehension. -/
def rowTarget : Node :=
  variableAt 8 2 21 "row" .store

/-- The clause `for row in table`. -/
def rowClause : Node :=
  .mk 7 none (.comprehension rowTarget (variableAt 9 2 28 "table" .load) [] .plain)

/-- The rows are bound by an assignment. -/
def rowsTarget : Node :=
  variableAt 4 2 4 "rows" .store

/-- A function with the statement `rows = [row for row in table]`. -/
def rowsFunction : Node :=
  plainFunction [.mk 3 (some ⟨2, 4⟩) (.assign [rowsTarget]
    (.mk 5 (some ⟨2, 11⟩) (.listComp (variableAt 6 2 12 "row" .load) [rowClause])))]

/-- The function as a subject. -/
def rowsSubject : Subject :=
  ⟨{ root := .mk 0 none (.file [rowsFunction]), distinct := by decide }, [], "rows.py", .initial⟩

theorem rowsSubject_clauses {c : Node} (hc : c ∈ rowsSubject.program.root.walk)
    (hkind : c.kind = .comprehension) : c = rowClause := by
  have hlisted : rowsSubject.program.root.walk.filter (fun c => c.kind == .comprehension) =
      [rowClause] := rfl
  have hmem : c ∈ rowsSubject.program.root.walk.filter (fun c => c.kind == .comprehension) :=
    List.mem_filter.mpr ⟨hc, beq_iff_eq.mpr hkind⟩
  rwa [hlisted, List.mem_singleton] at hmem

theorem rowsSubject_readsSources : rowsSubject.program.ReadsSources := by
  intro c hc target iter conditions mode hshape n hn v hstores
  obtain rfl := rowsSubject_clauses hc (by rw [Node.kind, hshape]; rfl)
  obtain ⟨-, rfl, rfl, -⟩ := Shape.comprehension.inj hshape
  obtain rfl := List.mem_singleton.mp hn
  cases hstores

theorem functionSizes_counts_locals_rowsSubject :
    rowsSubject.program.ReadsSources ∧
    FunctionMeasure.locals.count (rowsSubject.program.root.top.under rowsFunction) = 1 ∧
    {v | rowsSubject.program.HasLocal rowsFunction v}.ncard = 1 := by
  have hsite : rowsSubject.program.root.top.under rowsFunction ∈ rowsSubject.program.sites :=
    List.mem_of_getElem? (i := 1) rfl
  obtain ⟨-, hreads⟩ := (functionSizes_counts_locals rowsSubject {}).2.2 _ hsite
  obtain ⟨-, hcount⟩ := hreads rowsSubject_readsSources
  have hone : FunctionMeasure.locals.count (rowsSubject.program.root.top.under rowsFunction) = 1 :=
    rfl
  refine ⟨rowsSubject_readsSources, hone, ?_⟩
  rw [← hone]
  refine (hcount.mpr ?_).symm
  -- the only name in a target is the target
  rintro v ⟨-, n, hn, hstores, ⟨c, hc, t, htarget, hnt⟩, hinside⟩
  obtain rfl := rowsSubject_clauses hc htarget.kind_eq
  obtain ⟨iter, conditions, mode, hshape⟩ := htarget
  obtain ⟨rfl, -⟩ := Shape.comprehension.inj hshape
  obtain rfl := List.mem_singleton.mp hnt
  exact absurd ⟨_, _, _, rfl⟩ (hinside rowClause hc)

/-- The first of a pair is bound. -/
def leftTarget : Node :=
  variableAt 8 2 25 "left" .store

/-- The second of a pair begins with a name. -/
def rightTarget : Node :=
  variableAt 10 2 32 "right" .store

/-- The rest of the second of a pair is bound. -/
def restTarget : Node :=
  variableAt 12 2 40 "rest" .store

/-- The target `left, (right, *rest)`. -/
def pairTarget : Node :=
  .mk 7 (some ⟨2, 25⟩) (.tuple [leftTarget, .mk 9 (some ⟨2, 32⟩) (.tuple [rightTarget,
    .mk 11 (some ⟨2, 39⟩) (.starred restTarget (some .store))] (some .store))] (some .store))

/-- The clause `for left, (right, *rest) in pairs`. -/
def pairClause : Node :=
  .mk 6 none (.comprehension pairTarget (variableAt 13 2 49 "pairs" .load) [] .plain)

/-- A function with the statement `return [left for left, (right, *rest) in pairs]`. -/
def pairFunction : Node :=
  plainFunction [.mk 3 (some ⟨2, 4⟩) (.returned (some
    (.mk 4 (some ⟨2, 11⟩) (.listComp (variableAt 5 2 12 "left" .load) [pairClause]))))]

/-- A module with the function. -/
def pairProgram : Program :=
  { root := .mk 0 none (.file [pairFunction]), distinct := by decide }

/-- **Names in larger targets are counted.** The function has no local variables, and three are
counted. -/
theorem functionSizes_counts_targets :
    FunctionMeasure.locals.count (pairProgram.root.top.under pairFunction) = 3 ∧
    {v | pairProgram.HasLocal pairFunction v}.ncard = 0 := by
  refine ⟨rfl, ?_⟩
  have hclause : pairClause ∈ pairProgram.root.walk := List.mem_of_getElem? (i := 6) rfl
  have hstored : pairFunction.bodyWalk.filter bindsMentioned =
      pairTarget.walk.filter bindsMentioned := rfl
  have hnone : {v | pairProgram.HasLocal pairFunction v} = ∅ := by
    rw [Set.eq_empty_iff_forall_notMem]
    rintro v ⟨-, n, hn, hstores, houtside⟩
    have hmem := hstores.mem_of_filter hn hstored
    exact houtside ⟨pairClause, hclause, pairTarget, ⟨_, _, _, rfl⟩, List.mem_of_mem_filter hmem⟩
  rw [hnone, Set.ncard_empty]

end Stricture
