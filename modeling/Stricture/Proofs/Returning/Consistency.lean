import Stricture.Proofs.Place.Located

/-!
# Consistent returning and yielding

A function that hands a value over to its caller somewhere should do so everywhere. A return or a
yield belongs to the innermost function around it. The check does not ask for that function: for
every function it gathers all returns below it, those of inner functions as well. So an empty return
is reported as soon as any function around it has a return with a value anywhere below
(`mem_returnConsistency_iff`).

Both come to the same as long as empty returns and returns with a value that stand below one
function belong to one function (`Node.KeepsApart`).
-/

namespace Stricture

open Rules

/-- The ways in which a function hands something over to its caller. -/
inductive Handover where
  | returning
  | yielding

namespace Handover

/-- The kind of the nodes that hand over. -/
def kind : Handover → Kind
  | returning => .returned
  | yielding => .yielded

/-- The node that hands over a value, or nothing. -/
def layer : Handover → Option Node → Shape Node
  | returning => .returned
  | yielding => .yielded

/-- What is wrong with a node that hands over nothing. -/
def violation : Handover → Violation
  | returning => .inconsistentReturn
  | yielding => .inconsistentYield

theorem violation_injective {h h' : Handover} (heq : h.violation = h'.violation) : h = h' := by
  cases h with
  | returning =>
    cases h' with
    | returning => rfl
    | yielding => cases heq
  | yielding =>
    cases h' with
    | returning => cases heq
    | yielding => rfl

theorem handedValue?_eq_some_iff (h : Handover) {n : Node} {value : Option Node} :
    handedValue? h.kind n = some value ↔ n.shape = h.layer value := by
  unfold handedValue?
  cases h <;> cases n.shape <;> simp [kind, layer]

theorem isFunction_eq_false {h : Handover} {n : Node} {value : Option Node}
    (hn : n.shape = h.layer value) : n.isFunction = false := by
  rw [Node.isFunction, Node.isAny, Node.kind, hn]
  cases h <;> rfl

end Handover

namespace Node

/-- `r` hands over nothing, although below a function around it a value is handed over. -/
def IsMissing (root : Node) (h : Handover) (r : Node) : Prop :=
  r.shape = h.layer none ∧ ∃ g ∈ root.walk, g.isFunction = true ∧ g.StandsAbove r ∧
    ∃ w v, g.StandsAbove w ∧ w.shape = h.layer (some v)

/-- `r` is an empty return at the end of a function. -/
def EndsFunction (root r : Node) : Prop :=
  r.shape = .returned none ∧ ∃ g ∈ root.walk, g.isFunction = true ∧ g.body.getLast? = some r

/-- Whatever hands over nothing and whatever hands over a value below one function belong to one
function. What opens a function, besides definitions, is given by a test. -/
def KeepsApart (root : Node) (opens : Node → Bool) (h : Handover) : Prop :=
  ∀ g ∈ root.walk, g.isFunction = true → ∀ r w v, g.StandsAbove r → g.StandsAbove w →
    r.shape = h.layer none → w.shape = h.layer (some v) →
      ∀ f ∈ root.walk, f.IsNearest opens r → f.IsNearest opens w

end Node

/-! ### What one site reports -/

section Sites

variable {q : Program} {s : Site} {g r : Node}

theorem any_handedValue?_iff (h : Handover) {n : Node} {test : Option Node → Bool} :
    (handedValue? h.kind n).any test = true ↔
      ∃ value, n.shape = h.layer value ∧ test value = true := by
  rw [Option.any_eq_true]
  simp only [h.handedValue?_eq_some_iff]

/-- A function gathers everything below it, whatever stands between. -/
theorem mem_missingValues_iff (h : Handover) :
    r ∈ missingValues h.kind g ↔ r ∈ g.walk ∧ r.shape = h.layer none ∧
      ∃ w ∈ g.walk, ∃ v, w.shape = h.layer (some v) := by
  have hsome {n : Node} {value : Option Node} (hn : n.shape = h.layer value) :
      (handedValue? h.kind n).isSome = true := by
    rw [h.handedValue?_eq_some_iff.mpr hn]
    rfl
  have hany : ((g.walk.filter fun n => (handedValue? h.kind n).isSome).any fun n =>
      (handedValue? h.kind n).any Option.isSome) = true ↔
        ∃ w ∈ g.walk, ∃ v, w.shape = h.layer (some v) := by
    rw [List.any_eq_true]
    constructor
    · rintro ⟨w, hw, hvalue⟩
      obtain ⟨value, hshape, hv⟩ := (any_handedValue?_iff h).mp hvalue
      obtain ⟨v, rfl⟩ := Option.isSome_iff_exists.mp hv
      exact ⟨w, List.mem_of_mem_filter hw, v, hshape⟩
    · rintro ⟨w, hw, v, hshape⟩
      exact ⟨w, List.mem_filter.mpr ⟨hw, hsome hshape⟩,
        (any_handedValue?_iff h).mpr ⟨some v, hshape, rfl⟩⟩
  unfold missingValues
  dsimp only
  split
  case isTrue hvalue =>
    rw [List.mem_filter, List.mem_filter, any_handedValue?_iff]
    constructor
    · rintro ⟨⟨hr, -⟩, value, hshape, hnone⟩
      obtain rfl := Option.isNone_iff_eq_none.mp hnone
      exact ⟨hr, hshape, hany.mp hvalue⟩
    · rintro ⟨hr, hshape, -⟩
      exact ⟨⟨hr, hsome hshape⟩, none, hshape, rfl⟩
  case isFalse hvalue =>
    constructor
    · intro hr
      exact absurd hr List.not_mem_nil
    · rintro ⟨-, -, hfull⟩
      exact absurd (hany.mpr hfull) hvalue

/-- What a function gathers stands below it, since it is no function itself. -/
theorem mem_walk_iff_standsAbove {h : Handover} {value : Option Node} (hg : g.isFunction = true)
    (hr : r.shape = h.layer value) : r ∈ g.walk ↔ g.StandsAbove r := by
  rw [Node.mem_walk_iff_eq_or_standsAbove, or_iff_right]
  rintro rfl
  rw [h.isFunction_eq_false hr] at hg
  cases hg

theorem isEmptyLastReturn_iff (hs : s ∈ q.sites) :
    isEmptyLastReturn s = true ↔ q.root.EndsFunction s.node := by
  constructor
  · intro h
    unfold isEmptyLastReturn at h
    split at h
    case h_1 p hshape hparent =>
      obtain ⟨hfunction, hany⟩ := (Bool.and_eq_true _ _).mp h
      obtain ⟨m, hlast, hid⟩ := (Option.any_eq_true _ _).mp hany
      have hp := Program.parent_node_mem_walk hs hparent
      have hm := Program.child_mem_walk hp
        (Node.mem_children_of_mem_body (List.mem_of_getLast? hlast))
      obtain rfl : s.node = m := Program.node_eq_of_id_eq
        (Program.node_mem_walk_of_mem_sites hs) hm (Node.is_iff.mp hid)
      exact ⟨hshape, p.node, hp, hfunction, hlast⟩
    case h_2 => cases h
  · rintro ⟨hshape, g, hg, hfunction, hlast⟩
    have hchild := Node.mem_children_of_mem_body (List.mem_of_getLast? hlast)
    have hparent := (Program.parent?_eq_some_iff (Program.mem_walk_iff_mem_sites.mpr hs)).mpr
      ⟨hg, hchild⟩
    obtain ⟨p, hp, rfl⟩ := Option.map_eq_some_iff.mp hparent
    rw [isEmptyLastReturn, hshape, hp]
    dsimp only
    rw [hfunction, hlast, Option.any_some, Bool.true_and, Node.is_iff]

theorem mem_returnConsistency_of_isFunction {finding : Finding} (hs : s.node.isFunction = true) :
    finding ∈ returnConsistency s ↔
      ∃ h : Handover, ∃ r ∈ missingValues h.kind s.node, finding = h.violation.atNode r := by
  rw [returnConsistency, if_pos hs, List.mem_append, List.mem_map, List.mem_map]
  constructor
  · rintro (⟨r, hr, rfl⟩ | ⟨r, hr, rfl⟩)
    · exact ⟨.returning, r, hr, rfl⟩
    · exact ⟨.yielding, r, hr, rfl⟩
  · rintro ⟨h, r, hr, rfl⟩
    cases h with
    | returning => exact .inl ⟨r, hr, rfl⟩
    | yielding => exact .inr ⟨r, hr, rfl⟩

theorem mem_returnConsistency_of_not_isFunction {finding : Finding}
    (hs : s.node.isFunction = false) :
    finding ∈ returnConsistency s ↔
      isEmptyLastReturn s = true ∧ finding = Violation.inconsistentReturn.atNode s.node := by
  rw [returnConsistency, hs, reportIf]
  cases isEmptyLastReturn s <;> simp

end Sites

/-! ### What all sites report -/

namespace Program

variable {q : Program} {r : Node}

/-- **What is reported**: whatever hands over nothing although a value is handed over below some
function around it, and empty returns at the end of a function. -/
theorem mem_returnConsistency_iff {finding : Finding} :
    finding ∈ q.sites.flatMap returnConsistency ↔
      ∃ (h : Handover) (r : Node), r ∈ q.root.walk ∧ finding = h.violation.atNode r ∧
        (q.root.IsMissing h r ∨ h = .returning ∧ q.root.EndsFunction r) := by
  rw [List.mem_flatMap]
  constructor
  · rintro ⟨s, hs, hfinding⟩
    have hnode := node_mem_walk_of_mem_sites hs
    cases hfunction : s.node.isFunction with
    | true =>
      obtain ⟨h, r, hr, rfl⟩ := (mem_returnConsistency_of_isFunction hfunction).mp hfinding
      obtain ⟨hwalk, hshape, w, hw, v, hfull⟩ := (mem_missingValues_iff h).mp hr
      refine ⟨h, r, mem_walk_of_mem_walk hnode hwalk, rfl,
        .inl ⟨hshape, s.node, hnode, hfunction, ?_, w, v, ?_, hfull⟩⟩
      · exact (mem_walk_iff_standsAbove hfunction hshape).mp hwalk
      · exact (mem_walk_iff_standsAbove hfunction hfull).mp hw
    | false =>
      obtain ⟨hlast, rfl⟩ := (mem_returnConsistency_of_not_isFunction hfunction).mp hfinding
      exact ⟨.returning, s.node, hnode, rfl, .inr ⟨rfl, (isEmptyLastReturn_iff hs).mp hlast⟩⟩
  · rintro ⟨h, r, hr, rfl, ⟨hshape, g, hg, hfunction, habove, w, v, hw, hfull⟩ | ⟨rfl, hends⟩⟩
    · -- the function around it reports it
      obtain ⟨s, hs, rfl⟩ := exists_site hg
      refine ⟨s, mem_walk_iff_mem_sites.mp hs,
        (mem_returnConsistency_of_isFunction hfunction).mpr ⟨h, r, ?_, rfl⟩⟩
      rw [mem_missingValues_iff, mem_walk_iff_standsAbove hfunction hshape]
      exact ⟨habove, hshape, w, (mem_walk_iff_standsAbove hfunction hfull).mpr hw, v, hfull⟩
    · -- the return itself does
      obtain ⟨s, hs, rfl⟩ := exists_site hr
      rw [mem_walk_iff_mem_sites] at hs
      have hnot : s.node.isFunction = false :=
        Handover.isFunction_eq_false (h := .returning) hends.1
      exact ⟨s, hs, (mem_returnConsistency_of_not_isFunction hnot).mpr
        ⟨(isEmptyLastReturn_iff hs).mpr hends, rfl⟩⟩

variable {opens : Node → Bool}

/-- Where empty returns and returns with a value are kept apart, those of the innermost function
count. -/
theorem exists_owner_of_isMissing {h : Handover}
    (hopens : ∀ n, n.isFunction = true → opens n = true) (hapart : q.root.KeepsApart opens h)
    (hr : r ∈ q.root.walk) (hmissing : q.root.IsMissing h r) :
    ∃ f ∈ q.root.walk, f.IsNearest opens r ∧
      ∃ w v, w.shape = h.layer (some v) ∧ f.IsNearest opens w := by
  obtain ⟨hshape, g, hg, hfunction, habove, w, v, hw, hfull⟩ := hmissing
  obtain ⟨s, hs, rfl⟩ := exists_site hr
  obtain ⟨f, hf, hnear, -⟩ := exists_isNearest hs hg (hopens g hfunction) habove
  exact ⟨f, hf, hnear, w, v, hfull,
    hapart g hg hfunction s.node w v habove hw hshape hfull f hf hnear⟩

/-- Without inner functions, everything below a function belongs to it. -/
theorem keepsApart_of_flat (hflat : ∀ f ∈ q.root.walk, ∀ g ∈ q.root.walk,
      f.isFunction = true → g.isFunction = true → ¬ f.StandsAbove g) (h : Handover) :
    q.root.KeepsApart Node.isFunction h := by
  intro g hg hfunction r w v habove hw _ _ f hf hnear
  have hr : r ∈ q.root.walk :=
    mem_walk_of_mem_walk hg (Node.mem_walk_iff_eq_or_standsAbove.mpr (.inr habove))
  -- the innermost function around the empty one is the one that holds both
  obtain rfl : f = g := by
    obtain ⟨s, hs, rfl⟩ := exists_site hr
    obtain ⟨m, hm, hmnear, hmg⟩ := exists_isNearest hs hg hfunction habove
    obtain rfl : f = m := eq_of_isNearest hs hf hm hnear hmnear
    rcases hmg with heq | hbelow
    · exact heq
    · exact absurd hbelow (hflat g hg f hf hfunction hnear.2.1)
  refine ⟨hw, hfunction, fun m hm _ => ?_⟩
  have hmwalk : m ∈ q.root.walk :=
    mem_walk_of_mem_walk hg (Node.mem_walk_iff_eq_or_standsAbove.mpr (.inr hm))
  exact Bool.eq_false_iff.mpr fun hmf => hflat f hg m hmwalk hfunction hmf hm

end Program

/-- **Consistent returning and yielding.** The check always comes to its end. It reports exactly
what hands over nothing, although a value is handed over somewhere below some function around it,
and the empty returns at the end of a function. Where empty returns and returns with a value are
kept apart, every reported return is empty, and it stands at the end of the innermost function
around it or that function also has a return with a value of its own; and so do yields. -/
theorem returnConsistency_reports_missing (subject : Subject) (memory : Memory) :
    ∃ findings, (Check.returnConsistency.judge subject memory).1 = .ofFindings findings ∧
      (∀ finding, finding ∈ findings ↔
        ∃ (h : Handover) (r : Node), r ∈ subject.program.root.walk ∧
          finding = h.violation.atNode r ∧ (subject.program.root.IsMissing h r ∨
            h = .returning ∧ subject.program.root.EndsFunction r)) ∧
      ∀ opens : Node → Bool, (∀ n, n.isFunction = true → opens n = true) →
        ∀ h, subject.program.root.KeepsApart opens h →
          ∀ finding ∈ findings, finding.violation = h.violation →
            ∃ r ∈ subject.program.root.walk,
              finding = h.violation.atNode r ∧ r.shape = h.layer none ∧
              ∃ f ∈ subject.program.root.walk, f.IsNearest opens r ∧
                (h = .returning ∧ f.body.getLast? = some r ∨
                  ∃ w v, w.shape = h.layer (some v) ∧ f.IsNearest opens w) := by
  refine ⟨subject.program.sites.flatMap returnConsistency, rfl,
    fun finding => Program.mem_returnConsistency_iff, ?_⟩
  intro opens hopens h hapart finding hfinding hviolation
  obtain ⟨h', r, hr, rfl, hcase⟩ := Program.mem_returnConsistency_iff.mp hfinding
  obtain rfl : h' = h := Handover.violation_injective hviolation
  rcases hcase with hmissing | ⟨rfl, hshape, g, hg, hfunction, hlast⟩
  · obtain ⟨f, hf, hnear, hfull⟩ :=
      Program.exists_owner_of_isMissing hopens hapart hr hmissing
    exact ⟨r, hr, rfl, hmissing.1, f, hf, hnear, .inr hfull⟩
  · have hchild := Node.mem_children_of_mem_body (List.mem_of_getLast? hlast)
    exact ⟨r, hr, rfl, hshape, g, hg,
      Program.isNearest_of_mem_children hg hchild (hopens g hfunction), .inl ⟨rfl, hlast⟩⟩

/-- A name that is read. -/
def readName (id : Nat) (name : String) : Node :=
  .mk id none (.name name (some .load))

/-- Parameters of a function that takes none. -/
def noParams (id : Nat) : Node :=
  .mk id none (.params [] [] none [] [] none [])

/-- An empty return behind a condition. -/
def earlyReturn : Node :=
  .mk 5 (some ⟨3, 8⟩) (.returned none)

/-- A function that returns nothing early, and a value in the end. -/
def pickFunction : Node :=
  .mk 1 (some ⟨1, 0⟩) (.functionDef .plain "pick" (noParams 2)
    [.mk 3 (some ⟨2, 4⟩) (.branch (readName 4 "some") [earlyReturn] []),
      .mk 6 (some ⟨4, 4⟩) (.returned (some (readName 7 "other")))] [] none)

/-- The function as a subject. -/
def pickSubject : Subject :=
  ⟨{ root := .mk 0 none (.file [pickFunction]), distinct := by decide }, [], "pick.py", .initial⟩

theorem pickSubject_keepsApart (h : Handover) :
    pickSubject.program.root.KeepsApart Node.isFunction h := by
  refine Program.keepsApart_of_flat (fun f hf g hg hff hgf => ?_) h
  have honly (n : Node) (hn : n ∈ pickSubject.program.root.walk) (hnf : n.isFunction = true) :
      n = pickFunction := by
    have hfunctions : pickSubject.program.root.walk.filter Node.isFunction = [pickFunction] := rfl
    rw [← List.mem_singleton, ← hfunctions, List.mem_filter]
    exact ⟨hn, hnf⟩
  rw [honly f hf hff, honly g hg hgf]
  exact Node.not_standsAbove_self _

theorem returnConsistency_reports_missing_pickSubject :
    pickSubject.program.root.KeepsApart Node.isFunction .returning ∧
    (Check.returnConsistency.judge pickSubject {}).1 =
      .ofFindings [Violation.inconsistentReturn.atNode earlyReturn] ∧
    ∃ r ∈ pickSubject.program.root.walk,
      Violation.inconsistentReturn.atNode earlyReturn = Violation.inconsistentReturn.atNode r ∧
      r.shape = .returned none ∧
      ∃ f ∈ pickSubject.program.root.walk, f.IsNearest Node.isFunction r ∧
        (Handover.returning = .returning ∧ f.body.getLast? = some r ∨
          ∃ w v, w.shape = .returned (some v) ∧ f.IsNearest Node.isFunction w) := by
  have hreport : (Check.returnConsistency.judge pickSubject {}).1 =
      .ofFindings [Violation.inconsistentReturn.atNode earlyReturn] := rfl
  obtain ⟨findings, hfindings, -, hlaw⟩ := returnConsistency_reports_missing pickSubject {}
  have hmem : Violation.inconsistentReturn.atNode earlyReturn ∈ findings := by
    have heq : findings = [Violation.inconsistentReturn.atNode earlyReturn] :=
      congrArg Report.findings (hfindings.symm.trans hreport)
    rw [heq]
    exact List.mem_cons_self
  exact ⟨pickSubject_keepsApart .returning, hreport, hlaw Node.isFunction (fun _ hn => hn)
    .returning (pickSubject_keepsApart .returning) _ hmem rfl⟩

/-- An inner function with an empty return that is not its last statement. -/
def guardFunction : Node :=
  .mk 3 (some ⟨2, 4⟩) (.functionDef .plain "inner" (noParams 4)
    [.mk 6 (some ⟨3, 8⟩) (.branch (readName 7 "some") [earlyReturn] []),
      .mk 8 (some ⟨5, 8⟩) (.expression (readName 9 "other"))] [] none)

/-- The function that returns it. -/
def guardModule : Node :=
  .mk 0 none (.file [.mk 1 (some ⟨1, 0⟩) (.functionDef .plain "outer" (noParams 2)
    [guardFunction, .mk 10 (some ⟨6, 4⟩) (.returned (some (readName 11 "inner")))] [] none)])

/-- Both functions as a subject. -/
def guardSubject : Subject :=
  ⟨{ root := guardModule, distinct := by decide }, [], "guard.py", .initial⟩

/-- A yield of nothing. -/
def emptyYield : Node :=
  .mk 6 (some ⟨3, 8⟩) (.yielded none)

/-- An inner function that yields nothing. -/
def tickFunction : Node :=
  .mk 3 (some ⟨2, 4⟩) (.functionDef .plain "inner" (noParams 4)
    [.mk 5 (some ⟨3, 8⟩) (.expression emptyYield)] [] none)

/-- The function around it, which yields a value. -/
def tickModule : Node :=
  .mk 0 none (.file [.mk 1 (some ⟨1, 0⟩) (.functionDef .plain "outer" (noParams 2)
    [tickFunction, .mk 7 (some ⟨4, 4⟩) (.expression
      (.mk 8 (some ⟨4, 4⟩) (.yielded (some (readName 9 "inner")))))] [] none)])

/-- Both functions as a subject. -/
def tickSubject : Subject :=
  ⟨{ root := tickModule, distinct := by decide }, [], "tick.py", .initial⟩

/-- A function below which nothing hands over a value owns no such node. -/
theorem not_owns_of_walk {h : Handover} {f : Node}
    (hf : (f.walk.any fun n => (handedValue? h.kind n).any Option.isSome) = false) (w v : Node)
    (hw : w.shape = h.layer (some v)) : ¬ f.IsNearest Node.isFunction w := by
  intro hnear
  have hmem : w ∈ f.walk := Node.mem_walk_iff_eq_or_standsAbove.mpr (.inr hnear.1)
  have hany : (handedValue? h.kind w).any Option.isSome = true :=
    (any_handedValue?_iff h).mpr ⟨some v, hw, rfl⟩
  rw [List.any_eq_false] at hf
  exact hf w hmem hany

/-- **Returns of different functions are mixed up.** The innermost function around the empty return
of `guardSubject` neither ends with it nor has a return with a value, but the return is reported,
since the outer function has one. In the same way the yield of `tickSubject` is reported, although
its innermost function yields no value. -/
theorem returnConsistency_mixes_functions :
    ((Check.returnConsistency.judge guardSubject {}).1 =
        .ofFindings [Violation.inconsistentReturn.atNode earlyReturn] ∧
      guardFunction.IsNearest Node.isFunction earlyReturn ∧
      guardFunction.body.getLast? ≠ some earlyReturn ∧
      ∀ w v, w.shape = .returned (some v) → ¬ guardFunction.IsNearest Node.isFunction w) ∧
    ((Check.returnConsistency.judge tickSubject {}).1 =
        .ofFindings [Violation.inconsistentYield.atNode emptyYield] ∧
      tickFunction.IsNearest Node.isFunction emptyYield ∧
      ∀ w v, w.shape = .yielded (some v) → ¬ tickFunction.IsNearest Node.isFunction w) := by
  have hguard : guardSubject.program.walk.get ⟨10, by decide⟩ ∈ guardSubject.program.walk :=
    List.get_mem _ _
  have htick : tickSubject.program.walk.get ⟨8, by decide⟩ ∈ tickSubject.program.walk :=
    List.get_mem _ _
  refine ⟨⟨rfl, ?_, fun hlast => ?_, ?_⟩, rfl, ?_, ?_⟩
  · exact ((Program.closest?_eq_some_iff hguard).mp rfl).2
  · exact absurd (congrArg (Option.map Node.id) hlast) (by decide)
  · exact not_owns_of_walk (h := .returning) (by decide)
  · exact ((Program.closest?_eq_some_iff htick).mp rfl).2
  · exact not_owns_of_walk (h := .yielding) (by decide)

end Stricture
