import Stricture.Check
import Stricture.Proofs.Tree.Containment

/-!
# Located findings

A finding is located in a program if it belongs to a token, or stands at a node of the program or at
the start of the file. Here this is carried through everything from which rules build their findings
and reports, and it is shown which nodes a rule can reach from a site without leaving the program.
-/

namespace Stricture

/-- The finding belongs to a token, or it stands at the start of the file or at a node of the
program. -/
def Finding.IsLocatedIn (q : Program) (f : Finding) : Prop :=
  f.violation.describe.anchor = .token ∨ f.place = fileStart ∨
    ∃ n ∈ q.root.walk, n.position = some f.place

/-- All findings are located in the program. -/
def AreLocatedIn (q : Program) (findings : List Finding) : Prop :=
  ∀ f ∈ findings, f.IsLocatedIn q

section Combinators

variable {q : Program} {α : Type}

@[simp]
theorem Violation.atNode_isLocatedIn (v : Violation) {n : Node} (hn : n ∈ q.root.walk)
    (detail : Option String) : (v.atNode n detail).IsLocatedIn q := by
  have hplace : ∀ p, (v.place? n.position).getD fileStart = p →
      p = fileStart ∨ n.position = some p := by
    rintro p rfl
    unfold Violation.place?
    cases n.position with
    | none => left; split <;> rfl
    | some p => split <;> simp
  rcases hplace _ rfl with h | h
  · exact Or.inr (Or.inl h)
  · exact Or.inr (Or.inr ⟨n, hn, h⟩)

@[simp]
theorem Violation.atFile_isLocatedIn (v : Violation) (detail : Option String) :
    (v.atFile detail).IsLocatedIn q :=
  Or.inr (Or.inl rfl)

/-- Violations at tokens either have tokens as their place or concern the file as a whole. -/
theorem Violation.atToken_isLocatedIn {v : Violation}
    (h : v.describe.anchor = .token ∨ v.describe.anchor = .nowhere) (t : Token)
    (detail : Option String) : (v.atToken t detail).IsLocatedIn q := by
  rcases h with h | h
  · exact Or.inl h
  · refine Or.inr (Or.inl ?_)
    simp [atToken, place?, h]

namespace AreLocatedIn

@[simp]
theorem nil : AreLocatedIn q [] :=
  List.forall_mem_nil _

@[simp]
theorem cons_iff {f : Finding} {fs : List Finding} :
    AreLocatedIn q (f :: fs) ↔ f.IsLocatedIn q ∧ AreLocatedIn q fs :=
  List.forall_mem_cons

@[simp]
theorem append_iff {fs gs : List Finding} :
    AreLocatedIn q (fs ++ gs) ↔ AreLocatedIn q fs ∧ AreLocatedIn q gs :=
  List.forall_mem_append

@[simp]
theorem flatMap_iff {f : α → List Finding} {xs : List α} :
    AreLocatedIn q (xs.flatMap f) ↔ ∀ x ∈ xs, AreLocatedIn q (f x) :=
  List.forall_mem_flatMap

@[simp]
theorem map_iff {f : α → Finding} {xs : List α} :
    AreLocatedIn q (xs.map f) ↔ ∀ x ∈ xs, (f x).IsLocatedIn q :=
  List.forall_mem_map

@[simp]
theorem replicate {f : Finding} (h : f.IsLocatedIn q) (count : Nat) :
    AreLocatedIn q (List.replicate count f) :=
  List.forall_mem_replicate.mpr (Or.inr h)

@[simp]
theorem reportIf_iff {c : Bool} {f : Finding} :
    AreLocatedIn q (reportIf c f) ↔ (c = true → f.IsLocatedIn q) := by
  cases c <;> simp [reportIf]

@[simp]
theorem ite_iff {c : Prop} [Decidable c] {fs gs : List Finding} :
    AreLocatedIn q (if c then fs else gs) ↔
      (c → AreLocatedIn q fs) ∧ (¬ c → AreLocatedIn q gs) := by
  by_cases h : c <;> simp [h]

theorem getD_map {f : α → List Finding} {x? : Option α}
    (h : ∀ x, x? = some x → AreLocatedIn q (f x)) : AreLocatedIn q ((x?.map f).getD []) := by
  cases x? with
  | none => exact nil
  | some x => exact h x rfl

end AreLocatedIn

/-! ### Located reports -/

@[simp]
theorem Report.findings_empty : Report.empty.findings = [] := rfl

@[simp]
theorem Report.findings_ofFindings (fs : List Finding) : (Report.ofFindings fs).findings = fs := rfl

@[simp]
theorem Report.findings_stopped (fault : Fault) : (Report.stopped fault).findings = [] := rfl

theorem AreLocatedIn.andThen {r s : Report} (hr : AreLocatedIn q r.findings)
    (hs : AreLocatedIn q s.findings) : AreLocatedIn q (r.andThen s).findings := by
  unfold Report.andThen
  split
  · exact hr
  · exact append_iff.mpr ⟨hr, hs⟩

theorem AreLocatedIn.sequence {reports : List Report}
    (h : ∀ r ∈ reports, AreLocatedIn q r.findings) :
    AreLocatedIn q (Report.sequence reports).findings := by
  intro f hf
  obtain ⟨r, hr, hfr⟩ := Report.mem_sequence hf
  exact h r hr f hfr

theorem AreLocatedIn.requiring {seen : Rendered} {sites : List Site} {before : List Finding}
    {result : Report × Rendered} (hbefore : AreLocatedIn q before)
    (hresult : AreLocatedIn q result.1.findings) :
    AreLocatedIn q (RenderingRule.requiring seen sites before result).1.findings := by
  unfold RenderingRule.requiring
  split
  · exact hbefore
  · exact hresult

theorem AreLocatedIn.visit {rule : RenderingRule} {sites : List Site}
    (h : ∀ seen, ∀ s ∈ sites, AreLocatedIn q (rule seen s).1.findings) (seen : Rendered) :
    AreLocatedIn q (rule.visit seen sites).1.findings := by
  intro f hf
  obtain ⟨past, s, rest, rfl, hmem⟩ := RenderingRule.mem_visit hf
  exact h _ s (List.mem_append_right past List.mem_cons_self) f hmem

end Combinators

/-! ### Nodes that a rule can reach -/

namespace Node

variable {n m : Node}

theorem mem_children_of_shape {s : Shape Node} (h : n.shape = s) (hm : m ∈ s.children) :
    m ∈ n.children := by
  rwa [children, h]

theorem mem_children_of_mem_body (hm : m ∈ n.body) : m ∈ n.children := by
  unfold body at hm
  split at hm
  case h_12 => cases hm
  all_goals
    rename_i h
    exact mem_children_of_shape h (by simp [Shape.children, hm])

theorem mem_children_of_mem_orelse (hm : m ∈ n.orelse) : m ∈ n.children := by
  unfold orelse at hm
  split at hm
  case h_6 => cases hm
  all_goals
    rename_i h
    exact mem_children_of_shape h (by simp [Shape.children, hm])

theorem mem_children_of_mem_finalBody (hm : m ∈ n.finalBody) : m ∈ n.children := by
  unfold finalBody at hm
  split at hm
  case h_3 => cases hm
  all_goals
    rename_i h
    exact mem_children_of_shape h (by simp [Shape.children, hm])

theorem mem_children_of_hint? (hhint : n.hint? = some m) : m ∈ n.children := by
  unfold hint? at hhint
  split at hhint
  case h_1 target hint value hshape =>
    obtain rfl := Option.some.inj hhint
    exact mem_children_of_shape hshape (List.mem_cons_of_mem _ List.mem_cons_self)
  case h_2 name hint hshape =>
    exact mem_children_of_shape hshape (Option.mem_toList.mpr hhint)
  case h_3 => cases hhint

theorem mem_children_of_mem_decorators (hm : m ∈ n.decorators) : m ∈ n.children := by
  unfold decorators at hm
  split at hm
  case h_1 hshape => exact mem_children_of_shape hshape (by simp [Shape.children, hm])
  case h_2 hshape => exact mem_children_of_shape hshape (by simp [Shape.children, hm])
  case h_3 => cases hm

theorem mem_children_of_mem_targets (hm : m ∈ n.targets) : m ∈ n.children := by
  unfold targets at hm
  split at hm
  case h_3 => cases hm
  all_goals
    rename_i h
    exact mem_children_of_shape h (by simp_all [Shape.children])

theorem mem_children_of_mem_args {c : CallParts} (h : n.call? = some c) (hm : m ∈ c.args) :
    m ∈ n.children := by
  unfold call? at h
  split at h
  case h_1 hshape =>
    obtain rfl := Option.some.inj h
    exact mem_children_of_shape hshape (by simp_all [Shape.children])
  case h_2 => cases h

theorem mem_children_of_mem_displayItems {s t : Site} (h : some t ∈ Rules.displayItems s) :
    t.node ∈ s.node.children := by
  unfold Rules.displayItems at h
  split at h
  case h_1 hshape =>
    obtain ⟨e, he, hte⟩ := List.mem_map.mp h
    rw [← Option.some.inj hte]
    exact mem_children_of_shape hshape he
  case h_2 hshape =>
    obtain ⟨key, hkey, hte⟩ := List.mem_map.mp h
    obtain ⟨k, rfl, rfl⟩ := Option.map_eq_some_iff.mp hte
    exact mem_children_of_shape hshape
      (List.mem_append_left _ (List.mem_filterMap.mpr ⟨_, hkey, rfl⟩))
  case h_3 => cases h

theorem unwrapUnary_mem_walk (n : Node) : n.unwrapUnary ∈ n.walk := by
  rw [mem_walk_iff]
  fun_induction unwrapUnary n with
  | case1 id position op operand ih => exact .head (List.mem_singleton.mpr rfl) ih
  | case2 => exact .refl

end Node

namespace Program

variable {q : Program} {s : Site} {n m : Node}

theorem child_mem_walk (hn : n ∈ q.root.walk) (hm : m ∈ n.children) : m ∈ q.root.walk :=
  Node.mem_walk_iff.mpr ((Node.mem_walk_iff.mp hn).tail hm)

theorem unwrapUnary_mem_walk (hn : n ∈ q.root.walk) : n.unwrapUnary ∈ q.root.walk :=
  mem_walk_of_mem_walk hn n.unwrapUnary_mem_walk

theorem node_mem_walk_of_mem_sites (hs : s ∈ q.sites) : s.node ∈ q.root.walk :=
  node_mem_walk (mem_walk_iff_mem_sites.mpr hs)

theorem parent_node_mem_walk (hs : s ∈ q.sites) {p : Site} (hp : s.parent? = some p) :
    p.node ∈ q.root.walk := by
  rw [← mem_walk_iff_mem_sites] at hs
  exact ((parent?_eq_some_iff hs).mp (by rw [hp]; rfl)).1

/-- A node has one parent. -/
theorem eq_of_mem_children {m' : Node} (hm : m ∈ q.root.walk) (hm' : m' ∈ q.root.walk)
    (hn : n ∈ m.children) (hn' : n ∈ m'.children) : m = m' := by
  obtain ⟨t, ht, rfl⟩ := exists_site (child_mem_walk hm hn)
  have hparent := (parent?_eq_some_iff ht).mpr ⟨hm, hn⟩
  rw [(parent?_eq_some_iff ht).mpr ⟨hm', hn'⟩] at hparent
  exact (Option.some.inj hparent).symm

/-- A part of a statement is reported at its parent, or at itself if it has none. -/
theorem parent_getD_mem_walk (hs : s ∈ q.sites) :
    (s.parent?.map Site.node).getD s.node ∈ q.root.walk := by
  cases hp : s.parent? with
  | none => exact node_mem_walk_of_mem_sites hs
  | some p => exact parent_node_mem_walk hs hp

/-- The parameters and the default values of a function. -/
theorem signature_mem_walk (hn : n ∈ q.root.walk) {g : Signature} (hg : n.signature? = some g) :
    (∀ p ∈ g.all, p ∈ q.root.walk) ∧ ∀ d ∈ g.defaults, d ∈ q.root.walk := by
  have parameters {isLambda : Bool} {l : Node} (hl : l ∈ n.children) :
      (∀ p ∈ (l.toSignature isLambda).all, p ∈ q.root.walk) ∧
        ∀ d ∈ (l.toSignature isLambda).defaults, d ∈ q.root.walk := by
    have hlw := child_mem_walk hn hl
    unfold Node.toSignature
    split
    case h_1 hshape =>
      refine ⟨fun p hp => child_mem_walk hlw (Node.mem_children_of_shape hshape ?_),
        fun d hd => child_mem_walk hlw (Node.mem_children_of_shape hshape ?_)⟩
      · simp only [Signature.all, List.mem_append] at hp
        simp only [Shape.children, List.mem_append]
        tauto
      · simp_all [Shape.children]
    case h_2 => simp [Signature.all]
  unfold Node.signature? at hg
  split at hg
  case h_3 => cases hg
  all_goals
    rename_i hshape
    obtain rfl := Option.some.inj hg
    exact parameters (Node.mem_children_of_shape hshape (by simp [Shape.children]))

end Program

end Stricture
