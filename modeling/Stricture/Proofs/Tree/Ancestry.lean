import Mathlib.Data.List.Nodup
import Stricture.Proofs.Tree.Walk
import Stricture.Tree.Kind

/-!
# Parents, ancestors and contexts

A site carries its ancestors, and every search upwards is a search in that list. Here the list is
tied to the tree, in which a node only knows its children: the ancestors of a site are the nodes
from which a chain of children leads down to it (`mem_above_iff`), and the nearest of them that
passes a test is the one that `closest?` finds (`closest?_eq_some_iff`, `closest?_eq_none_iff`).
-/

namespace Stricture

namespace Node

theorem is_iff {m n : Node} : m.is n = true ↔ m.id = n.id := by
  rw [Node.is, beq_iff_eq]

theorem is_eq_false_iff {m n : Node} : m.is n = false ↔ m.id ≠ n.id := by
  rw [Node.is, beq_eq_false_iff_ne]

/-- `n` is a child of `m`. -/
def HasChild (m n : Node) : Prop :=
  n ∈ m.children

/-- `a` stands above `n`: a chain of children leads from `a` down to `n`. -/
def StandsAbove (a n : Node) : Prop :=
  Relation.TransGen HasChild a n

/-- `a` is the nearest node above `n` that passes the test: nothing between the two passes it. -/
def IsNearest (test : Node → Bool) (a n : Node) : Prop :=
  a.StandsAbove n ∧ test a = true ∧ ∀ m, a.StandsAbove m → m.StandsAbove n → test m = false

theorem StandsAbove.sizeOf_lt {a n : Node} (h : a.StandsAbove n) : sizeOf n < sizeOf a := by
  induction h with
  | single hc => exact sizeOf_lt_of_mem_children hc
  | tail _ hc ih => exact Nat.lt_trans (sizeOf_lt_of_mem_children hc) ih

theorem not_standsAbove_self (n : Node) : ¬ n.StandsAbove n :=
  fun h => Nat.lt_irrefl _ h.sizeOf_lt

/-! ### Sites and nodes -/

theorem reflTransGen_of_sites {s t : Site} (h : Relation.ReflTransGen Site.HasChild s t) :
    Relation.ReflTransGen HasChild s.node t.node := by
  refine h.lift Site.node fun a b hab => ?_
  obtain ⟨c, hc, rfl⟩ := List.mem_map.mp hab
  exact hc

/-- A chain of children that starts at a site is a chain of sites. -/
theorem exists_site_of_reflTransGen {s : Site} {n : Node}
    (h : Relation.ReflTransGen HasChild s.node n) :
    ∃ t : Site, t.node = n ∧ Relation.ReflTransGen Site.HasChild s t := by
  induction h with
  | refl => exact ⟨s, rfl, .refl⟩
  | tail _ hc ih =>
    obtain ⟨t, rfl, ht⟩ := ih
    exact ⟨t.under _, rfl, ht.tail (Site.under_mem_children hc)⟩

/-- The nodes of a walk are those to which a chain of children leads. -/
theorem mem_walk_iff {n m : Node} : m ∈ n.walk ↔ Relation.ReflTransGen HasChild n m := by
  rw [walk, List.mem_map]
  constructor
  · rintro ⟨t, ht, rfl⟩
    exact reflTransGen_of_sites (Site.mem_walk_iff.mp ht)
  · intro h
    obtain ⟨t, rfl, ht⟩ := exists_site_of_reflTransGen (s := n.top) h
    exact ⟨t, Site.mem_walk_iff.mpr ht, rfl⟩

theorem mem_walk_self (n : Node) : n ∈ n.walk :=
  mem_walk_iff.mpr .refl

theorem mem_walk_of_mem_children {n m c : Node} (hc : c ∈ n.children) (hm : m ∈ c.walk) :
    m ∈ n.walk :=
  mem_walk_iff.mpr (.head hc (mem_walk_iff.mp hm))

theorem mem_walk_iff_eq_or_standsAbove {n m : Node} : m ∈ n.walk ↔ m = n ∨ n.StandsAbove m := by
  rw [mem_walk_iff, Relation.reflTransGen_iff_eq_or_transGen]; rfl

end Node

namespace Program

variable {q : Program} {s t : Site}

theorem mem_walk_iff : s ∈ q.walk ↔ Relation.ReflTransGen Site.HasChild q.root.top s :=
  Site.mem_walk_iff

theorem node_mem_walk (hs : s ∈ q.walk) : s.node ∈ q.root.walk :=
  List.mem_map_of_mem hs

theorem exists_site {n : Node} (hn : n ∈ q.root.walk) : ∃ s ∈ q.walk, s.node = n :=
  List.mem_map.mp hn

theorem id_mem_ids {n : Node} (hn : n ∈ q.root.walk) : n.id ∈ q.root.ids := by
  obtain ⟨s, hs, rfl⟩ := exists_site hn
  exact List.mem_map_of_mem (mem_walk_iff_mem_sites.mp hs)

theorem under_mem_walk (hs : s ∈ q.walk) {c : Node} (hc : c ∈ s.node.children) :
    s.under c ∈ q.walk :=
  mem_walk_iff.mpr ((mem_walk_iff.mp hs).tail (Site.under_mem_children hc))

/-- A site is the top of the tree, or a child of another site. -/
theorem walk_cases (hs : s ∈ q.walk) :
    s = q.root.top ∨ ∃ t ∈ q.walk, ∃ c ∈ t.node.children, s = t.under c := by
  rcases (mem_walk_iff.mp hs).cases_tail with h | ⟨t, ht, hst⟩
  · exact Or.inl h
  · obtain ⟨c, hc, rfl⟩ := List.mem_map.mp hst
    exact Or.inr ⟨t, mem_walk_iff.mpr ht, c, hc, rfl⟩

/-- The parent of a site is a site that has it as a child. -/
theorem parent_mem_walk {n m : Node} {rest : List Node} (hs : ⟨n, m :: rest⟩ ∈ q.walk) :
    ⟨m, rest⟩ ∈ q.walk ∧ n ∈ m.children := by
  rcases walk_cases hs with h | ⟨t, ht, c, hc, h⟩
  · simp [Node.top] at h
  · simp only [Site.under, Site.mk.injEq, List.cons.injEq] at h
    obtain ⟨rfl, rfl, rfl⟩ := h
    exact ⟨ht, hc⟩

theorem eq_root_of_above_nil {n : Node} (hs : ⟨n, []⟩ ∈ q.walk) : n = q.root := by
  rcases walk_cases hs with h | ⟨t, _, c, _, h⟩
  · simpa [Node.top] using h
  · simp [Site.under] at h

/-- Identities tell sites apart. -/
theorem eq_of_id_eq (hs : s ∈ q.walk) (ht : t ∈ q.walk) (h : s.node.id = t.node.id) : s = t := by
  rw [mem_walk_iff_mem_sites] at hs ht
  exact List.inj_on_of_nodup_map q.distinct hs ht h

theorem eq_of_node_eq (hs : s ∈ q.walk) (ht : t ∈ q.walk) (h : s.node = t.node) : s = t :=
  eq_of_id_eq hs ht (congrArg Node.id h)

/-- Identities tell nodes apart. -/
theorem node_eq_of_id_eq {m n : Node} (hm : m ∈ q.root.walk) (hn : n ∈ q.root.walk)
    (h : m.id = n.id) : m = n := by
  obtain ⟨s, hs, rfl⟩ := exists_site hm
  obtain ⟨t, ht, rfl⟩ := exists_site hn
  rw [eq_of_id_eq hs ht h]

theorem parent?_eq_none_iff (hs : s ∈ q.walk) : s.parent? = none ↔ s.node = q.root := by
  obtain ⟨n, above⟩ := s
  constructor
  · intro h
    cases above with
    | nil => exact eq_root_of_above_nil hs
    | cons m rest => cases h
  · intro h
    have htop : q.root.top ∈ q.walk := mem_walk_iff.mpr .refl
    rw [eq_of_node_eq hs htop h]
    rfl

theorem parent?_eq_some_iff (hs : s ∈ q.walk) {m : Node} :
    s.parent?.map Site.node = some m ↔ m ∈ q.root.walk ∧ s.node ∈ m.children := by
  constructor
  · intro h
    obtain ⟨n, above⟩ := s
    cases above with
    | nil => cases h
    | cons k rest =>
      obtain rfl := Option.some.inj h
      obtain ⟨hk, hn⟩ := parent_mem_walk hs
      exact ⟨node_mem_walk hk, hn⟩
  · rintro ⟨hm, hn⟩
    obtain ⟨t, ht, rfl⟩ := exists_site hm
    rw [eq_of_node_eq hs (under_mem_walk ht hn) rfl]
    rfl

/-! ### Ancestors -/

/-- Whoever has an ancestor in its list stands below it. -/
theorem standsAbove_of_mem_above {a n : Node} {above : List Node} (hs : ⟨n, above⟩ ∈ q.walk)
    (ha : a ∈ above) : a ∈ q.root.walk ∧ a.StandsAbove n := by
  induction above generalizing n with
  | nil => exact absurd ha List.not_mem_nil
  | cons m rest ih =>
    obtain ⟨hm, hn⟩ := parent_mem_walk hs
    rcases List.mem_cons.mp ha with rfl | ha
    · exact ⟨node_mem_walk hm, .single hn⟩
    · obtain ⟨hwalk, habove⟩ := ih hm ha
      exact ⟨hwalk, habove.tail hn⟩

/-- Going down from a node, every site that is reached has the node in its list. -/
theorem exists_site_below {a n : Node} (ha : a ∈ q.root.walk) (h : a.StandsAbove n) :
    ∃ t ∈ q.walk, t.node = n ∧ a ∈ t.above := by
  obtain ⟨s, hs, rfl⟩ := exists_site ha
  induction h with
  | single hc => exact ⟨s.under _, under_mem_walk hs hc, rfl, List.mem_cons_self⟩
  | tail _ hc ih =>
    obtain ⟨t, ht, rfl, hat⟩ := ih
    exact ⟨t.under _, under_mem_walk ht hc, rfl, List.mem_cons_of_mem _ hat⟩

/-- **The list of a site holds its ancestors**: the nodes of the tree from which a chain of children
leads down to it. -/
theorem mem_above_iff (hs : s ∈ q.walk) {a : Node} :
    a ∈ s.above ↔ a ∈ q.root.walk ∧ a.StandsAbove s.node := by
  constructor
  · exact standsAbove_of_mem_above hs
  · rintro ⟨ha, habove⟩
    obtain ⟨t, ht, hnode, hat⟩ := exists_site_below ha habove
    rwa [eq_of_node_eq hs ht hnode.symm]

/-- An ancestor with what follows it in the list is a site again. -/
theorem suffix_mem_walk {a : Node} {near far : List Node} (hs : s ∈ q.walk)
    (h : s.above = near ++ a :: far) : ⟨a, far⟩ ∈ q.walk := by
  obtain ⟨n, above⟩ := s
  subst h
  induction near generalizing n with
  | nil => exact (parent_mem_walk hs).1
  | cons m rest ih => exact ih m (parent_mem_walk hs).1

/-- What stands in the list before an ancestor stands between that ancestor and the site. -/
theorem between_of_mem_near {a m : Node} {near far : List Node} (hs : s ∈ q.walk)
    (h : s.above = near ++ a :: far) (hm : m ∈ near) : a.StandsAbove m ∧ m.StandsAbove s.node := by
  obtain ⟨before, after, rfl⟩ := List.append_of_mem hm
  have hsplit : s.above = before ++ m :: (after ++ a :: far) := by
    rw [h, List.append_assoc, List.cons_append]
  have hm' : m ∈ s.above := by rw [hsplit]; simp
  exact ⟨(standsAbove_of_mem_above (suffix_mem_walk hs hsplit) (by simp)).2,
    ((mem_above_iff hs).mp hm').2⟩

/-- What stands between an ancestor and the site is in the list before that ancestor. -/
theorem mem_near_of_between {a m : Node} {near far : List Node} (hs : s ∈ q.walk)
    (h : s.above = near ++ a :: far) (ham : a.StandsAbove m) (hmn : m.StandsAbove s.node) :
    m ∈ near := by
  have ha : a ∈ q.root.walk := node_mem_walk (suffix_mem_walk hs h)
  obtain ⟨t, ht, rfl, _⟩ := exists_site_below ha ham
  have hmem : t.node ∈ s.above := (mem_above_iff hs).mpr ⟨node_mem_walk ht, hmn⟩
  rw [h, List.mem_append, List.mem_cons] at hmem
  rcases hmem with hnear | heq | hfar
  · exact hnear
  · exact absurd (heq ▸ ham) (Node.not_standsAbove_self _)
  · -- farther away than `a` is above `a`, which cannot be above it in turn
    have hma := (standsAbove_of_mem_above (suffix_mem_walk hs h) hfar).2
    exact absurd (hma.trans ham) (Node.not_standsAbove_self _)

theorem closest?_eq_some_iff (hs : s ∈ q.walk) {test : Node → Bool} {a : Node} :
    s.closest? test = some a ↔ a ∈ q.root.walk ∧ a.IsNearest test s.node := by
  rw [Site.closest?, List.find?_eq_some_iff_append]
  constructor
  · rintro ⟨hta, near, far, h, hnear⟩
    have ha : a ∈ s.above := by rw [h]; simp
    obtain ⟨hwalk, habove⟩ := (mem_above_iff hs).mp ha
    refine ⟨hwalk, habove, hta, fun m ham hmn => ?_⟩
    simpa using hnear m (mem_near_of_between hs h ham hmn)
  · rintro ⟨hwalk, habove, hta, hbetween⟩
    obtain ⟨near, far, h⟩ := List.append_of_mem ((mem_above_iff hs).mpr ⟨hwalk, habove⟩)
    refine ⟨hta, near, far, h, fun m hm => ?_⟩
    obtain ⟨ham, hmn⟩ := between_of_mem_near hs h hm
    simpa using hbetween m ham hmn

theorem closest?_eq_none_iff (hs : s ∈ q.walk) {test : Node → Bool} :
    s.closest? test = none ↔ ∀ a ∈ q.root.walk, a.StandsAbove s.node → test a = false := by
  rw [Site.closest?, List.find?_eq_none]
  constructor
  · intro h a hwalk habove
    simpa using h a ((mem_above_iff hs).mpr ⟨hwalk, habove⟩)
  · intro h a ha
    obtain ⟨hwalk, habove⟩ := (mem_above_iff hs).mp ha
    simpa using h a hwalk habove

end Program

end Stricture
