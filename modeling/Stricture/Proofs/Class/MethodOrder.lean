import Stricture.Proofs.Returning.Variables

/-!
# The order of methods

The methods of a class come in groups: construction first, then public and magic methods, then
protected and private ones. A class is reported if one of its methods stands before a method of an
earlier group.

The rule compares the names of the methods with the same names sorted. The sort is stable, so that
the two lists are equal exactly if no two methods stand in the wrong order
(`eq_orderedMethods_iff`). That names are compared and not methods makes no difference: methods of
one name are of one group.
-/

namespace Stricture

open Rules

/-! ### Groups of methods -/

/-- The groups of methods. -/
inductive MethodGroup where
  | creation
  | initialization
  | common
  | guarded
  | hidden
  deriving DecidableEq

namespace MethodGroup

/-- All groups, one that has to come first before the others. -/
def inOrder : List MethodGroup :=
  [creation, initialization, common, guarded, hidden]

/-- The names of the methods of a group. -/
def Has : MethodGroup → String → Prop
  | creation, name => name = "__new__"
  | initialization, name => name = "__init__"
  | common, name => name ≠ "__new__" ∧ name ≠ "__init__" ∧
      (Name.isMagic name = true ∨ Name.isProtected name = false ∧ Name.isPrivate name = false)
  | guarded, name => Name.isProtected name = true
  | hidden, name => Name.isPrivate name = true

/-- The group `j` comes later than the group `i`. -/
def Precedes (i j : MethodGroup) : Prop :=
  [i, j].Sublist inOrder

/-- The rank that the rule gives to the names of a group. -/
def rank : MethodGroup → Nat
  | creation => 4
  | initialization => 3
  | common => 2
  | guarded => 1
  | hidden => 0

theorem precedes_iff {i j : MethodGroup} : i.Precedes j ↔ j.rank < i.rank := by
  unfold Precedes
  cases i <;> cases j <;> decide

variable {i : MethodGroup} {name : String}

/-- A protected name is neither private nor magic. -/
theorem isPrivate_of_isProtected (h : Name.isProtected name = true) :
    Name.isPrivate name = false ∧ Name.isMagic name = false := by
  simp only [Name.isProtected, Bool.and_eq_true, Bool.not_eq_true'] at h
  exact ⟨h.1.2, h.2⟩

theorem isMagic_of_isPrivate (h : Name.isPrivate name = true) : Name.isMagic name = false := by
  simp only [Name.isPrivate, Bool.and_eq_true, Bool.not_eq_true'] at h
  exact h.2

theorem exists_has (name : String) : ∃ i : MethodGroup, i.Has name := by
  by_cases hnew : name = "__new__"
  · exact ⟨creation, hnew⟩
  by_cases hinit : name = "__init__"
  · exact ⟨initialization, hinit⟩
  cases hprotected : Name.isProtected name with
  | true => exact ⟨guarded, hprotected⟩
  | false =>
    cases hprivate : Name.isPrivate name with
    | true => exact ⟨hidden, hprivate⟩
    | false => exact ⟨common, hnew, hinit, .inr ⟨hprotected, hprivate⟩⟩

/-- **The groups do not overlap**: the rank of a name tells its group. -/
theorem Has.methodRank_eq (h : i.Has name) : methodRank name = i.rank := by
  have hnew : Name.isProtected "__new__" = false ∧ Name.isPrivate "__new__" = false := by decide
  have hinit : Name.isProtected "__init__" = false ∧ Name.isPrivate "__init__" = false := by decide
  -- a protected or private name is none of the names that the rule looks for first
  have hother (hname : Name.isProtected name = true ∨ Name.isPrivate name = true) :
      name ≠ "__new__" ∧ name ≠ "__init__" := by
    constructor
    · rintro rfl
      simp [hnew] at hname
    · rintro rfl
      simp [hinit] at hname
  unfold methodRank
  cases i with
  | creation => exact if_pos h
  | initialization =>
    have hname : name = "__init__" := h
    have hne : name ≠ "__new__" := by
      rw [hname]
      decide
    rw [if_neg hne, if_pos hname]
    rfl
  | common =>
    obtain ⟨hne, hne', hopen⟩ := h
    have hplain : Name.isProtected name = false ∧ Name.isPrivate name = false := by
      rcases hopen with hmagic | hplain
      · constructor
        · refine Bool.eq_false_iff.mpr fun hprotected => ?_
          rw [(isPrivate_of_isProtected hprotected).2] at hmagic
          cases hmagic
        · refine Bool.eq_false_iff.mpr fun hprivate => ?_
          rw [isMagic_of_isPrivate hprivate] at hmagic
          cases hmagic
      · exact hplain
    rw [if_neg hne, if_neg hne', hplain.1, hplain.2]
    rfl
  | guarded =>
    have hprotected : Name.isProtected name = true := h
    obtain ⟨hne, hne'⟩ := hother (.inl hprotected)
    rw [if_neg hne, if_neg hne', if_pos hprotected]
    rfl
  | hidden =>
    have hprivate : Name.isPrivate name = true := h
    obtain ⟨hne, hne'⟩ := hother (.inr hprivate)
    have hprotected : Name.isProtected name ≠ true := by
      intro hprotected
      rw [(isPrivate_of_isProtected hprotected).1] at hprivate
      cases hprivate
    rw [if_neg hne, if_neg hne', if_neg hprotected, if_pos hprivate]
    rfl

end MethodGroup

/-- The name `b` is one of an earlier group than the name `a`. -/
def Outranks (b a : String) : Prop :=
  ∃ i j : MethodGroup, i.Has b ∧ j.Has a ∧ i.Precedes j

theorem outranks_iff {a b : String} : Outranks b a ↔ methodRank a < methodRank b := by
  constructor
  · rintro ⟨i, j, hi, hj, hprecedes⟩
    rw [hi.methodRank_eq, hj.methodRank_eq]
    exact MethodGroup.precedes_iff.mp hprecedes
  · intro hlt
    obtain ⟨i, hi⟩ := MethodGroup.exists_has b
    obtain ⟨j, hj⟩ := MethodGroup.exists_has a
    rw [hi.methodRank_eq, hj.methodRank_eq] at hlt
    exact ⟨i, j, hi, hj, MethodGroup.precedes_iff.mpr hlt⟩

/-! ### Sorted names -/

/-- Names are as they are wanted exactly if none stands before one of a higher rank. -/
theorem eq_orderedMethods_iff {names : List String} :
    names = orderedMethods names ↔
      names.Pairwise fun a b => methodRank b ≤ methodRank a := by
  have htrans : ∀ a b c : String, decide (methodRank b ≤ methodRank a) = true →
      decide (methodRank c ≤ methodRank b) = true →
      decide (methodRank c ≤ methodRank a) = true := by
    intro a b c hab hbc
    rw [decide_eq_true_iff] at hab hbc ⊢
    exact Nat.le_trans hbc hab
  have htotal : ∀ a b : String,
      (decide (methodRank b ≤ methodRank a) || decide (methodRank a ≤ methodRank b)) = true := by
    intro a b
    rw [Bool.or_eq_true, decide_eq_true_iff, decide_eq_true_iff]
    exact Nat.le_total _ _
  constructor
  · intro heq
    have hsorted := List.pairwise_mergeSort htrans htotal names
    rw [heq]
    exact hsorted.imp of_decide_eq_true
  · intro hpairwise
    exact (List.mergeSort_of_pairwise (hpairwise.imp decide_eq_true)).symm

/-! ### Methods of a class -/

/-- `f` is a method of the class `c`: a function whose context is the class. -/
structure Node.IsMethodOf (f c : Node) (name : String) : Prop where
  owned : c.Owns f
  function : f.isFunction = true
  named : f.definedName? = some name

/-- The class has a method before another one that is wanted earlier. -/
def Node.MisplacesMethod (c : Node) : Prop :=
  ∃ f g a b, [f, g].Sublist c.walk ∧ f.IsMethodOf c a ∧ g.IsMethodOf c b ∧ Outranks b a

namespace Program

variable {q : Program} {s : Site}

open Classical in
theorem methodNames_eq (hs : s ∈ q.walk) :
    methodNames s = (s.node.walk.filter fun n => n.isFunction && s.node.Owns n).filterMap
      Node.definedName? := by
  have hown : ∀ t ∈ s.walk, (t.node.isFunction && t.context?.any s.node.is) =
      (t.node.isFunction && decide (s.node.Owns t.node)) := by
    intro t ht
    congr 1
    rw [Bool.eq_iff_iff, any_context?_iff hs (mem_walk_of_mem_site_walk hs ht), decide_eq_true_iff]
  rw [methodNames, List.filter_congr hown, ← s.map_node_walk, List.filter_map, List.filterMap_map]
  rfl

theorem pairwise_methodNames_iff (hs : s ∈ q.walk) :
    (methodNames s).Pairwise (fun a b => methodRank b ≤ methodRank a) ↔
      ¬ s.node.MisplacesMethod := by
  classical
  rw [methodNames_eq hs, List.pairwise_filterMap, List.pairwise_filter,
    List.pairwise_iff_forall_sublist]
  constructor
  · rintro hpairs ⟨f, g, a, b, hsub, hf, hg, houtranks⟩
    have hle : methodRank b ≤ methodRank a :=
      hpairs hsub (by simp [hf.function, hf.owned]) (by simp [hg.function, hg.owned]) a hf.named b
        hg.named
    exact absurd (outranks_iff.mp houtranks) (Nat.not_lt.mpr hle)
  · intro hnone f g hsub hf hg a ha b hb
    rw [Bool.and_eq_true, decide_eq_true_iff] at hf hg
    refine Nat.not_lt.mp fun hlt => hnone ⟨f, g, a, b, hsub, ?_, ?_, outranks_iff.mpr hlt⟩
    · exact ⟨hf.2, hf.1, ha⟩
    · exact ⟨hg.2, hg.1, hb⟩

open Classical in
/-- What the rule says about one site. -/
theorem methodOrder_eq (hs : s ∈ q.walk) :
    methodOrder s = reportIf (s.node.kind = .classDef ∧ s.node.MisplacesMethod)
      (Violation.wrongMethodOrder.atNode s.node) := by
  have htest : (s.node.kind == .classDef && methodNames s != orderedMethods (methodNames s)) =
      decide (s.node.kind = .classDef ∧ s.node.MisplacesMethod) := by
    rw [Bool.eq_iff_iff, Bool.and_eq_true, beq_iff_eq, bne_iff_ne, Ne, eq_orderedMethods_iff,
      pairwise_methodNames_iff hs, not_not, decide_eq_true_iff]
  rw [methodOrder, htest]

end Program

/-! ### The whole check -/

/-- **Classes with misplaced methods** are reported, once each. So a class whose methods come in the
order of their ranks is not reported, whatever names occur more than once. -/
theorem methodOrder_reports_misplaced (subject : Subject) (memory : Memory) :
    ∃ reported : List Site, reported.Sublist subject.program.sites ∧ reported.Nodup ∧
      (∀ s ∈ subject.program.sites,
        s ∈ reported ↔ s.node.kind = .classDef ∧ s.node.MisplacesMethod) ∧
      (∀ s ∈ subject.program.sites,
        (methodNames s).Pairwise (fun a b => ¬ Outranks b a) → s ∉ reported) ∧
      (Check.methodOrder.judge subject memory).1 =
        .ofFindings (reported.map fun s => Violation.wrongMethodOrder.atNode s.node) := by
  classical
  have hwalk (s : Site) (hs : s ∈ subject.program.sites) : s ∈ subject.program.walk :=
    Program.mem_walk_iff_mem_sites.mpr hs
  refine ⟨subject.program.sites.filter fun s => s.node.kind = .classDef ∧ s.node.MisplacesMethod,
    List.filter_sublist, subject.program.sites_nodup.filter _, fun s hs => ?_,
    fun s hs hsorted hreported => ?_, congrArg Report.ofFindings ?_⟩
  · rw [List.mem_filter, and_iff_right hs, decide_eq_true_iff]
  · have hpairwise : (methodNames s).Pairwise fun a b => methodRank b ≤ methodRank a :=
      hsorted.imp fun hnot => Nat.not_lt.mp fun hlt => hnot (outranks_iff.mpr hlt)
    have hmisplaces := (of_decide_eq_true (List.mem_filter.mp hreported).2).2
    exact (Program.pairwise_methodNames_iff (hwalk s hs)).mp hpairwise hmisplaces
  · rw [← flatMap_reportIf]
    exact List.flatMap_congr fun s hs => Program.methodOrder_eq (hwalk s hs)

end Stricture
