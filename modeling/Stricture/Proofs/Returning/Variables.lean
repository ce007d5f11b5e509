import Stricture.Proofs.Returning.Consistency
import Stricture.Proofs.Tree.Order

/-!
# Variables that are only returned

A variable that a function binds just to return it is reported. The check looks at the nodes whose
context is the function, that is, between which and the function there is no other function and no
class (`Node.Owns`). So a reported variable is read nowhere else among these, and they include
everything in lambdas and comprehensions (`Node.OnlyReturns`). What stands in inner functions and
classes is not looked at: a variable is reported although an inner function reads it.
-/

namespace Stricture

open Rules

namespace Node

/-- `f` is the context of `n`: no other function, class or file stands between. -/
def Owns (f n : Node) : Prop :=
  f.IsNearest isContext n

/-- Another function, class or file stands between `f` and `n`. -/
def Hides (f n : Node) : Prop :=
  ∃ g, f.StandsAbove g ∧ g.isContext = true ∧ g.StandsAbove n

/-- A name that is loaded. -/
def Loads (n : Node) (v : String) : Prop :=
  n.shape = .name v (some .load)

/-- An augmented assignment to a name. -/
def Augments (n : Node) (v : String) : Prop :=
  ∃ target op value, n.shape = .augAssign target op value ∧ target.name? = some v

/-- A return of a name as it is. -/
def Returns (n : Node) (v : String) : Prop :=
  ∃ m, n.shape = .returned (some m) ∧ m.name? = some v

/-- An assignment whose first target is the name. -/
def Binds (n : Node) (v : String) : Prop :=
  ∃ target, n.targets.head? = some target ∧ target.name? = some v

/-- In the context of `f` the variable is bound, and read only where `f` returns it. -/
structure OnlyReturns (f : Node) (v : String) : Prop where
  /-- The variable is bound. -/
  bound : ∃ n, f.Owns n ∧ n.Binds v
  /-- Wherever it is loaded, it is returned as it is. -/
  loads : ∀ n, f.Owns n → n.Loads v → ∃ r, f.Owns r ∧ r.shape = .returned (some n)
  /-- There is no augmented assignment to it. -/
  kept : ∀ n, f.Owns n → ¬ n.Augments v

/-- `r` is the last return of the variable, level by level, in the context of `f`. -/
structure IsLastReturn (f : Node) (v : String) (r : Node) : Prop where
  owned : f.Owns r
  returns : r.Returns v
  last : ∀ r', f.Owns r' → r'.Returns v → ¬ [r, r'].Sublist f.walk

variable {f n : Node} {v : String}

theorem Owns.mem_walk (h : f.Owns n) : n ∈ f.walk :=
  mem_walk_iff_eq_or_standsAbove.mpr (.inr h.1)

end Node

/-! ### What the rule gathers -/

section Gathering

variable {n m : Node} {v : String}

theorem firstTarget?_eq_some_iff : firstTarget? n = some v ↔ n.Binds v :=
  Option.bind_eq_some_iff

theorem readName?_eq_some_iff :
    readName? n = some m ↔ (m = n ∧ ∃ id, n.Loads id) ∨
      ∃ op value, n.shape = .augAssign m op value ∧ m.name?.isSome = true := by
  unfold readName? Node.Loads
  split
  case h_1 id hshape =>
    rw [Option.some.injEq, hshape]
    constructor
    · rintro rfl
      exact .inl ⟨rfl, id, rfl⟩
    · rintro (⟨rfl, -⟩ | ⟨op, value, heq, -⟩)
      · rfl
      · cases heq
  case h_2 target op value hshape =>
    rw [hshape, Option.ite_none_right_eq_some, Option.some.injEq]
    constructor
    · rintro ⟨hname, rfl⟩
      exact .inr ⟨op, value, rfl, hname⟩
    · rintro (⟨-, id, heq⟩ | ⟨_, _, heq, hname⟩)
      · cases heq
      · cases heq
        exact ⟨hname, rfl⟩
  case h_3 hload haug =>
    constructor
    · intro h
      cases h
    · rintro (⟨-, id, heq⟩ | ⟨op, value, heq, -⟩)
      · exact absurd heq (hload id)
      · exact absurd heq (haug m op value)

theorem returnedName?_eq_some_iff :
    returnedName? n = some m ↔ n.shape = .returned (some m) ∧ m.name?.isSome = true := by
  unfold returnedName?
  split
  case h_1 value hshape =>
    rw [hshape, Option.ite_none_right_eq_some, Option.some.injEq]
    constructor
    · rintro ⟨hname, rfl⟩
      exact ⟨rfl, hname⟩
    · rintro ⟨heq, hname⟩
      cases heq
      exact ⟨hname, rfl⟩
  case h_2 hreturned =>
    constructor
    · intro h
      cases h
    · rintro ⟨heq, -⟩
      exact absurd heq (hreturned m)

theorem any_returnedName?_iff :
    ((returnedName? n).any fun m => m.name? == some v) = true ↔ n.Returns v := by
  rw [Option.any_eq_true]
  constructor
  · rintro ⟨m, hm, hname⟩
    exact ⟨m, (returnedName?_eq_some_iff.mp hm).1, beq_iff_eq.mp hname⟩
  · rintro ⟨m, hshape, hname⟩
    exact ⟨m, returnedName?_eq_some_iff.mpr ⟨hshape, Option.isSome_of_eq_some hname⟩,
      beq_iff_eq.mpr hname⟩

theorem isOnlyReturned_iff {nodes : List Node} :
    isOnlyReturned nodes v = true ↔
      ∀ n ∈ nodes, ∀ m, readName? n = some m → m.name? = some v →
        ∃ r ∈ nodes, ∃ k, r.shape = .returned (some k) ∧ k.name? = some v ∧ m.id = k.id := by
  simp only [isOnlyReturned, List.all_eq_true, List.any_eq_true, List.mem_filter,
    List.mem_filterMap, beq_iff_eq, Node.is_iff]
  constructor
  · intro h n hn m hm hname
    obtain ⟨k, ⟨⟨r, hr, hk⟩, hkname⟩, hid⟩ := h m ⟨⟨n, hn, hm⟩, hname⟩
    exact ⟨r, hr, k, (returnedName?_eq_some_iff.mp hk).1, hkname, hid⟩
  · rintro h m ⟨⟨n, hn, hm⟩, hname⟩
    obtain ⟨r, hr, k, hshape, hkname, hid⟩ := h n hn m hm hname
    have hk := returnedName?_eq_some_iff.mpr ⟨hshape, Option.isSome_of_eq_some hkname⟩
    exact ⟨k, ⟨⟨r, hr, hk⟩, hkname⟩, hid⟩

theorem mem_onlyReturned_iff {nodes : List Node} {finding : Finding} :
    finding ∈ onlyReturned nodes ↔
      ∃ v r, (∃ n ∈ nodes, n.Binds v) ∧ isOnlyReturned nodes v = true ∧
        (nodes.filter fun n => (returnedName? n).any fun m => m.name? == some v).getLast? = some r ∧
        finding = Violation.inconsistentReturnVariable.atNode r := by
  simp only [onlyReturned, List.mem_flatMap, List.mem_filter, List.mem_eraseDups, Bool.and_eq_true,
    List.contains_iff_mem, List.mem_filterMap, firstTarget?_eq_some_iff, List.mem_map,
    Option.mem_toList]
  constructor
  · rintro ⟨v, ⟨-, hbound, honly⟩, r, hlast, rfl⟩
    exact ⟨v, r, hbound, honly, hlast, rfl⟩
  · rintro ⟨v, r, hbound, honly, hlast, rfl⟩
    refine ⟨v, ⟨?_, hbound, honly⟩, r, hlast, rfl⟩
    -- what is returned last is returned
    obtain ⟨hr, hreturns⟩ := List.mem_filter.mp (List.mem_of_getLast? hlast)
    obtain ⟨m, hm, hname⟩ := (Option.any_eq_true _ _).mp hreturns
    exact ⟨m, ⟨r, hr, hm⟩, beq_iff_eq.mp hname⟩

end Gathering

/-! ### What belongs to a function -/

/-- The last that passes a test is the one after which nothing passes it. -/
theorem getLast?_filter_eq_some_iff {α : Type} {l : List α} (hl : l.Nodup) {test : α → Bool}
    {a : α} :
    (l.filter test).getLast? = some a ↔
      a ∈ l ∧ test a = true ∧ ∀ b, test b = true → ¬ [a, b].Sublist l := by
  constructor
  · intro hlast
    obtain ⟨hmem, htest⟩ := List.mem_filter.mp (List.mem_of_getLast? hlast)
    refine ⟨hmem, htest, fun b hb hsub => ?_⟩
    obtain ⟨before, hsplit⟩ := List.getLast?_eq_some_iff.mp hlast
    have hpair : [a, b].Sublist (before ++ [a]) := by
      have hfilter := hsub.filter test
      rwa [hsplit, List.filter_cons_of_pos htest, List.filter_cons_of_pos hb] at hfilter
    have hnot : a ∉ before := fun ha =>
      (List.nodup_append.mp (hsplit ▸ hl.filter test)).2.2 a ha a List.mem_cons_self rfl
    obtain ⟨front, back, heq, hfront, hback⟩ := List.sublist_append_iff.mp hpair
    cases front with
    | nil =>
      rw [List.nil_append] at heq
      exact absurd (heq ▸ hback).length_le (Nat.not_succ_le_self 1)
    | cons c rest =>
      obtain rfl : a = c := (List.cons.inj heq).1
      exact hnot (hfront.subset List.mem_cons_self)
  · rintro ⟨hmem, htest, hafter⟩
    obtain ⟨c, hc⟩ := Option.isSome_iff_exists.mp
      (List.getLast?_isSome.mpr (List.ne_nil_of_mem (List.mem_filter.mpr ⟨hmem, htest⟩)))
    obtain ⟨before, hsplit⟩ := List.getLast?_eq_some_iff.mp hc
    have ha : a ∈ before ++ [c] := hsplit ▸ List.mem_filter.mpr ⟨hmem, htest⟩
    rcases List.mem_append.mp ha with hbefore | hlast
    · have hpair : [a, c].Sublist (l.filter test) := by
        rw [hsplit]
        exact (List.singleton_sublist.mpr hbefore).append (List.Sublist.refl [c])
      have hctest := (List.mem_filter.mp (List.mem_of_getLast? hc)).2
      exact absurd (hpair.trans List.filter_sublist) (hafter c hctest)
    · rwa [List.mem_singleton.mp hlast]

namespace Program

variable {q : Program} {s : Site} {n : Node} {v : String}

theorem any_context?_iff {t : Site} (hs : s ∈ q.walk) (ht : t ∈ q.walk) :
    t.context?.any s.node.is = true ↔ s.node.Owns t.node := by
  rw [Option.any_eq_true]
  constructor
  · rintro ⟨c, hc, hid⟩
    obtain ⟨hwalk, hnear⟩ := (closest?_eq_some_iff ht).mp hc
    rwa [← node_eq_of_id_eq (node_mem_walk hs) hwalk (Node.is_iff.mp hid)] at hnear
  · intro hnear
    exact ⟨s.node, (closest?_eq_some_iff ht).mpr ⟨node_mem_walk hs, hnear⟩, Node.is_iff.mpr rfl⟩

open Classical in
theorem ownNodes_eq (hs : s ∈ q.walk) :
    ownNodes s = s.node.walk.filter fun n => s.node.Owns n := by
  have hown : ∀ t ∈ s.walk, t.context?.any s.node.is = decide (s.node.Owns t.node) := by
    intro t ht
    rw [Bool.eq_iff_iff, any_context?_iff hs (mem_walk_of_mem_site_walk hs ht), decide_eq_true_iff]
  rw [ownNodes, List.filter_congr hown, ← s.map_node_walk, List.filter_map]
  rfl

theorem mem_ownNodes_iff (hs : s ∈ q.walk) : n ∈ ownNodes s ↔ s.node.Owns n := by
  classical
  rw [ownNodes_eq hs, List.mem_filter, decide_eq_true_iff, and_iff_right_of_imp]
  exact Node.Owns.mem_walk

theorem nodup_node_walk (hs : s ∈ q.walk) : s.node.walk.Nodup := by
  rw [← s.map_node_walk]
  refine (nodup_walk hs).map_on fun t ht u hu h => ?_
  exact eq_of_node_eq (mem_walk_of_mem_site_walk hs ht) (mem_walk_of_mem_site_walk hs hu) h

theorem getLast?_returns_eq_some_iff (hs : s ∈ q.walk) {r : Node} :
    ((ownNodes s).filter fun n => (returnedName? n).any fun m => m.name? == some v).getLast? =
      some r ↔ s.node.IsLastReturn v r := by
  classical
  rw [ownNodes_eq hs, List.filter_filter, getLast?_filter_eq_some_iff (nodup_node_walk hs)]
  simp only [Bool.and_eq_true, any_returnedName?_iff, decide_eq_true_iff]
  constructor
  · rintro ⟨-, ⟨hreturns, howned⟩, hlast⟩
    exact ⟨howned, hreturns, fun r' howned' hreturns' => hlast r' ⟨hreturns', howned'⟩⟩
  · rintro ⟨howned, hreturns, hlast⟩
    exact ⟨howned.mem_walk, ⟨hreturns, howned⟩,
      fun r' hr' => hlast r' hr'.2 hr'.1⟩

theorem isOnlyReturned_ownNodes_iff (hs : s ∈ q.walk) :
    isOnlyReturned (ownNodes s) v = true ↔
      (∀ n, s.node.Owns n → n.Loads v → ∃ r, s.node.Owns r ∧ r.shape = .returned (some n)) ∧
        ∀ n, s.node.Owns n → ¬ n.Augments v := by
  have hwalk {n : Node} (hn : s.node.Owns n) : n ∈ q.root.walk :=
    mem_walk_of_mem_walk (node_mem_walk hs) hn.mem_walk
  have hvalue {r k : Node} (hr : r.shape = .returned (some k)) : k ∈ r.children :=
    Node.mem_children_of_shape hr List.mem_cons_self
  rw [isOnlyReturned_iff]
  simp only [mem_ownNodes_iff hs]
  constructor
  · intro h
    constructor
    · intro n hn hload
      have hread : readName? n = some n := readName?_eq_some_iff.mpr (.inl ⟨rfl, v, hload⟩)
      have hname : n.name? = some v := by
        rw [Node.name?, hload]
      obtain ⟨r, hr, k, hshape, -, hid⟩ := h n hn n hread hname
      rw [node_eq_of_id_eq (hwalk hn) (child_mem_walk (hwalk hr) (hvalue hshape)) hid]
      exact ⟨r, hr, hshape⟩
    · -- the target of an augmented assignment would be returned, but it has one parent only
      rintro n hn ⟨target, op, value, haug, hname⟩
      have hread : readName? n = some target :=
        readName?_eq_some_iff.mpr (.inr ⟨op, value, haug, Option.isSome_of_eq_some hname⟩)
      obtain ⟨r, hr, k, hshape, -, hid⟩ := h n hn target hread hname
      have htarget : target ∈ n.children := Node.mem_children_of_shape haug List.mem_cons_self
      obtain rfl := node_eq_of_id_eq (child_mem_walk (hwalk hn) htarget)
        (child_mem_walk (hwalk hr) (hvalue hshape)) hid
      obtain rfl := eq_of_mem_children (hwalk hn) (hwalk hr) htarget (hvalue hshape)
      rw [haug] at hshape
      cases hshape
  · rintro ⟨hloads, hkept⟩ n hn m hread hname
    rcases readName?_eq_some_iff.mp hread with ⟨rfl, id, hload⟩ | ⟨op, value, haug, -⟩
    · obtain rfl : id = v := by
        rw [Node.name?, hload] at hname
        exact Option.some.inj hname
      obtain ⟨r, hr, hshape⟩ := hloads m hn hload
      exact ⟨r, hr, m, hshape, hname, rfl⟩
    · exact absurd ⟨m, op, value, haug, hname⟩ (hkept n hn)

/-- **What is reported of one function**: the last return of every variable that the function only
returns. -/
theorem mem_onlyReturned_ownNodes_iff (hs : s ∈ q.walk) {finding : Finding} :
    finding ∈ onlyReturned (ownNodes s) ↔
      ∃ v r, s.node.OnlyReturns v ∧ s.node.IsLastReturn v r ∧
        finding = Violation.inconsistentReturnVariable.atNode r := by
  simp only [mem_onlyReturned_iff, mem_ownNodes_iff hs, isOnlyReturned_ownNodes_iff hs,
    getLast?_returns_eq_some_iff hs]
  constructor
  · rintro ⟨v, r, hbound, ⟨hloads, hkept⟩, hlast, rfl⟩
    exact ⟨v, r, ⟨hbound, hloads, hkept⟩, hlast, rfl⟩
  · rintro ⟨v, r, ⟨hbound, hloads, hkept⟩, hlast, rfl⟩
    exact ⟨v, r, hbound, ⟨hloads, hkept⟩, hlast, rfl⟩

/-- Whatever stands below a context belongs to it, or to another one further down. -/
theorem owns_or_hides {f : Node} (hf : f ∈ q.root.walk) (hcontext : f.isContext = true)
    (habove : f.StandsAbove n) : f.Owns n ∨ f.Hides n := by
  obtain ⟨t, ht, rfl⟩ := exists_site (mem_walk_of_mem_walk hf
    (Node.mem_walk_iff_eq_or_standsAbove.mpr (.inr habove)))
  obtain ⟨g, -, hnear, rfl | hbelow⟩ := exists_isNearest ht hf hcontext habove
  · exact .inl hnear
  · exact .inr ⟨g, hbelow, hnear.2.1, hnear.1⟩

end Program

/-! ### Reports -/

section Reports

variable {q : Program} {s : Site}

theorem Node.isContext_of_isFunction {n : Node} (h : n.isFunction = true) : n.isContext = true := by
  have hkind : n.kind ∈ [Kind.functionDef, .asyncFunctionDef] := List.contains_iff_mem.mp h
  exact List.contains_iff_mem.mpr (List.mem_cons_of_mem _ (List.mem_cons_of_mem _ hkind))

theorem mem_returnedVariables {finding : Finding}
    (h : finding ∈ (returnedVariables s).findings) :
    s.node.isFunction = true ∧ finding ∈ onlyReturned (ownNodes s) := by
  unfold returnedVariables at h
  split at h
  case isTrue hfunction =>
    dsimp only at h
    split at h
    case isTrue => exact absurd h List.not_mem_nil
    case isFalse => exact ⟨hfunction, h⟩
  case isFalse => exact absurd h List.not_mem_nil

/-- If all assignments have a target, nothing stops the rule. -/
theorem returnedVariables_eq (hs : s ∈ q.walk)
    (htargets : ∀ n ∈ q.root.walk, n.isAssignment = true → n.targets ≠ []) :
    returnedVariables s =
      .ofFindings (if s.node.isFunction then onlyReturned (ownNodes s) else []) := by
  have hnone : ¬ ((ownNodes s).any fun n => n.isAssignment && n.targets.isEmpty) = true := by
    rw [List.any_eq_true]
    rintro ⟨n, hn, hempty⟩
    obtain ⟨hassignment, htarget⟩ := (Bool.and_eq_true _ _).mp hempty
    have hwalk := Program.mem_walk_of_mem_walk (Program.node_mem_walk hs)
      ((Program.mem_ownNodes_iff hs).mp hn).mem_walk
    exact htargets n hwalk hassignment (List.isEmpty_iff.mp htarget)
  rw [returnedVariables]
  dsimp only
  rw [if_neg hnone]
  cases s.node.isFunction <;> rfl

end Reports

/-- **Variables that are only returned.** Every finding stands at the last return of a variable that
some function only returns. Wherever the variable is loaded below the function, the function returns
it as it is, unless another function or class stands between, and augmented assignments to it stand
in inner functions and classes only. If all assignments have a target, the check comes to its end
and reports every such variable. -/
theorem returnedVariables_reports_onlyReturned (subject : Subject) (memory : Memory) :
    (∀ finding ∈ (Check.returnedVariables.judge subject memory).1.findings,
      ∃ f ∈ subject.program.root.walk, f.isFunction = true ∧
        ∃ v r, f.OnlyReturns v ∧ f.IsLastReturn v r ∧
          finding = Violation.inconsistentReturnVariable.atNode r ∧
          (∀ n, f.StandsAbove n → n.Loads v →
            (∃ r', f.Owns r' ∧ r'.shape = .returned (some n)) ∨ f.Hides n) ∧
          ∀ n, f.StandsAbove n → n.Augments v → f.Hides n) ∧
    ((∀ n ∈ subject.program.root.walk, n.isAssignment = true → n.targets ≠ []) →
      ∃ findings, (Check.returnedVariables.judge subject memory).1 = .ofFindings findings ∧
        ∀ f ∈ subject.program.root.walk, f.isFunction = true →
          ∀ v r, f.OnlyReturns v → f.IsLastReturn v r →
            Violation.inconsistentReturnVariable.atNode r ∈ findings) := by
  constructor
  · intro finding hfinding
    obtain ⟨report, hreport, hmem⟩ := Report.mem_sequence hfinding
    obtain ⟨s, hs, rfl⟩ := List.mem_map.mp hreport
    rw [← Program.mem_walk_iff_mem_sites] at hs
    obtain ⟨hfunction, honly⟩ := mem_returnedVariables hmem
    obtain ⟨v, r, hreturns, hlast, rfl⟩ := (Program.mem_onlyReturned_ownNodes_iff hs).mp honly
    have howns (n : Node) (hn : s.node.StandsAbove n) : s.node.Owns n ∨ s.node.Hides n :=
      Program.owns_or_hides (Program.node_mem_walk hs) (Node.isContext_of_isFunction hfunction) hn
    refine ⟨s.node, Program.node_mem_walk hs, hfunction, v, r, hreturns, hlast, rfl, ?_, ?_⟩
    · intro n hn hload
      exact (howns n hn).imp_left fun hown => hreturns.loads n hown hload
    · intro n hn haug
      exact (howns n hn).resolve_left fun hown => hreturns.kept n hown haug
  · intro htargets
    have hsites : ∀ s ∈ subject.program.sites, returnedVariables s =
        .ofFindings (if s.node.isFunction then onlyReturned (ownNodes s) else []) := fun s hs =>
      returnedVariables_eq (Program.mem_walk_iff_mem_sites.mpr hs) htargets
    refine ⟨_, Report.sequence_eq_ofFindings fun report hreport => ?_, ?_⟩
    · obtain ⟨s, hs, rfl⟩ := List.mem_map.mp hreport
      rw [hsites s hs]
      rfl
    · intro f hf hfunction v r hreturns hlast
      obtain ⟨s, hs, rfl⟩ := Program.exists_site hf
      have hsite := Program.mem_walk_iff_mem_sites.mp hs
      refine List.mem_flatMap.mpr ⟨_, List.mem_map_of_mem hsite, ?_⟩
      rw [hsites s hsite, hfunction]
      exact (Program.mem_onlyReturned_ownNodes_iff hs).mpr ⟨v, r, hreturns, hlast, rfl⟩

/-- A variable is bound. -/
def totalBinding : Node :=
  .mk 3 (some ⟨2, 4⟩) (.assign [.mk 4 (some ⟨2, 4⟩) (.name "total" (some .store))]
    (readName 5 "first"))

/-- The variable is returned. -/
def totalReturn : Node :=
  .mk 6 (some ⟨5, 4⟩) (.returned (some (readName 7 "total")))

/-- A function that binds the variable in the beginning and returns it in the end. -/
def totalFunction (between : List Node) : Node :=
  .mk 1 (some ⟨1, 0⟩) (.functionDef .plain "outer" (noParams 2)
    (totalBinding :: between ++ [totalReturn]) [] none)

/-- The function with nothing between. -/
def totalModule : Node :=
  .mk 0 none (.file [totalFunction []])

/-- The function as a subject. -/
def totalSubject : Subject :=
  ⟨{ root := totalModule, distinct := by decide }, [], "total.py", .initial⟩

theorem returnedVariables_reports_onlyReturned_totalSubject :
    (∀ n ∈ totalSubject.program.root.walk, n.isAssignment = true → n.targets ≠ []) ∧
    (Check.returnedVariables.judge totalSubject {}).1 =
      .ofFindings [Violation.inconsistentReturnVariable.atNode totalReturn] ∧
    ∃ f ∈ totalSubject.program.root.walk, f.isFunction = true ∧
      ∃ v r, f.OnlyReturns v ∧ f.IsLastReturn v r ∧
        Violation.inconsistentReturnVariable.atNode totalReturn =
          Violation.inconsistentReturnVariable.atNode r ∧
        (∀ n, f.StandsAbove n → n.Loads v →
          (∃ r', f.Owns r' ∧ r'.shape = .returned (some n)) ∨ f.Hides n) ∧
        ∀ n, f.StandsAbove n → n.Augments v → f.Hides n := by
  refine ⟨fun n hn hassignment => ?_, rfl, ?_⟩
  · have hbindings : totalSubject.program.root.walk.filter Node.isAssignment = [totalBinding] := rfl
    have hmem := List.mem_filter.mpr ⟨hn, hassignment⟩
    rw [hbindings, List.mem_singleton] at hmem
    rw [hmem]
    exact List.cons_ne_nil _ _
  · exact (returnedVariables_reports_onlyReturned totalSubject {}).1 _ List.mem_cons_self

/-- The variable is read in an inner function. -/
def closureRead : Node :=
  readName 13 "total"

/-- An inner function that prints the variable. -/
def closureFunction : Node :=
  .mk 8 (some ⟨3, 4⟩) (.functionDef .plain "inner" (noParams 9)
    [.mk 10 (some ⟨4, 8⟩) (.expression
      (.mk 11 (some ⟨4, 8⟩) (.call (readName 12 "print") [closureRead] [])))] [] none)

/-- The function around it. -/
def closureModule : Node :=
  .mk 0 none (.file [totalFunction [closureFunction]])

/-- Both functions as a subject. -/
def closureSubject : Subject :=
  ⟨{ root := closureModule, distinct := by decide }, [], "closure.py", .initial⟩

/-- **Reads in inner functions are overlooked.** The variable that `closureSubject` returns is
reported, although the inner function, which does not bind it, loads it without returning it. -/
theorem returnedVariables_overlooks_inner :
    (Check.returnedVariables.judge closureSubject {}).1 =
      .ofFindings [Violation.inconsistentReturnVariable.atNode totalReturn] ∧
    (totalFunction [closureFunction]).Owns totalReturn ∧ totalReturn.Returns "total" ∧
    (totalFunction [closureFunction]).StandsAbove closureFunction ∧
    closureFunction.StandsAbove closureRead ∧ closureRead.Loads "total" ∧
    (∀ k ∈ closureFunction.walk, k.name? = some "total" → k.Loads "total") ∧
    ∀ r ∈ closureModule.walk, r.shape ≠ .returned (some closureRead) := by
  have hreturn : closureSubject.program.walk.get ⟨5, by decide⟩ ∈ closureSubject.program.walk :=
    List.get_mem _ _
  have hread : closureSubject.program.walk.get ⟨13, by decide⟩ ∈ closureSubject.program.walk :=
    List.get_mem _ _
  refine ⟨rfl, ?_, ⟨_, rfl, rfl⟩, ?_, ?_, rfl, fun k hk hname => ?_, fun r hr hshape => ?_⟩
  · exact ((Program.closest?_eq_some_iff hreturn).mp rfl).2
  · exact .single (List.mem_cons_of_mem _ (List.mem_cons_of_mem _ List.mem_cons_self))
  · exact ((Program.mem_above_iff hread).mp
      (List.mem_cons_of_mem _ (List.mem_cons_of_mem _ List.mem_cons_self))).2
  · have hnamed : (closureFunction.walk.filter fun k => k.name? == some "total") = [closureRead] :=
      rfl
    have hmem : k ∈ closureFunction.walk.filter fun k => k.name? == some "total" :=
      List.mem_filter.mpr ⟨hk, beq_iff_eq.mpr hname⟩
    rw [hnamed, List.mem_singleton] at hmem
    rw [hmem]
    rfl
  · have hreturned : (closureModule.walk.filterMap returnedName?).map Node.id = [7] := rfl
    have hmem := List.mem_map_of_mem (f := Node.id)
      (List.mem_filterMap.mpr ⟨r, hr, returnedName?_eq_some_iff.mpr ⟨hshape, rfl⟩⟩)
    rw [hreturned] at hmem
    exact absurd hmem (by decide)

end Stricture
