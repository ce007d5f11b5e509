import Mathlib.Data.List.Infix
import Mathlib.Data.List.Pairwise
import Stricture.Proofs.Tree.Ancestry

/-!
# Visiting order

Sites are visited one branch after the other, every parent before its children. So the sites below
a site are visited right after it (`visit_isInfix`), and whatever is visited later without standing
below it comes after all of them (`Precedes.of_not_standsAbove`). A walk goes level by level
instead, but it meets a site before those below it as well (`Site.pair_sublist_walk`).
-/

namespace Stricture

/-- Without repetitions, what comes before a site is what stands in front of it. -/
theorem pair_sublist_append_cons_iff {s t : Site} {past rest : List Site}
    (hnodup : (past ++ s :: rest).Nodup) : [t, s].Sublist (past ++ s :: rest) ↔ t ∈ past := by
  rw [List.nodup_append, List.nodup_cons] at hnodup
  obtain ⟨-, ⟨hrest, -⟩, -⟩ := hnodup
  constructor
  · intro hsub
    obtain ⟨front, back, heq, hfront, hback⟩ := List.sublist_append_iff.mp hsub
    cases front with
    | nil =>
      -- then `s` would come a second time
      rw [List.nil_append] at heq
      rw [← heq] at hback
      exact absurd (List.singleton_sublist.mp hback.tail) hrest
    | cons a _ =>
      obtain rfl : t = a := (List.cons.inj heq).1
      exact hfront.subset List.mem_cons_self
  · intro hmem
    have hs : [s].Sublist (s :: rest) := List.singleton_sublist.mpr List.mem_cons_self
    exact (List.singleton_sublist.mpr hmem).append hs

namespace Program

variable {q : Program} {s t u : Site}

/-- `t` is visited before `s`. -/
def Precedes (q : Program) (t s : Site) : Prop :=
  [t, s].Sublist q.sites

theorem sites_nodup (q : Program) : q.sites.Nodup :=
  List.Nodup.of_map _ q.distinct

theorem Precedes.mem_left (h : q.Precedes t s) : t ∈ q.sites :=
  h.subset List.mem_cons_self

theorem Precedes.mem_right (h : q.Precedes t s) : s ∈ q.sites :=
  h.subset (List.mem_cons_of_mem t List.mem_cons_self)

/-- What precedes a site is what stands before it in the list of sites. -/
theorem precedes_iff_mem {past rest : List Site} (h : q.sites = past ++ s :: rest) :
    q.Precedes t s ↔ t ∈ past := by
  rw [Precedes, h]
  exact pair_sublist_append_cons_iff (h ▸ q.sites_nodup)

theorem Precedes.trans (htu : q.Precedes t u) (hus : q.Precedes u s) : q.Precedes t s := by
  obtain ⟨past, rest, h⟩ := List.append_of_mem hus.mem_right
  rw [precedes_iff_mem h] at hus ⊢
  obtain ⟨before, between, rfl⟩ := List.append_of_mem hus
  have hu : q.sites = before ++ u :: (between ++ s :: rest) := by
    rw [h, List.append_assoc, List.cons_append]
  exact List.mem_append_left _ ((precedes_iff_mem hu).mp htu)

theorem not_precedes_self (q : Program) (s : Site) : ¬ q.Precedes s s :=
  fun h => by simpa using h.nodup q.sites_nodup

/-- A site precedes only what stands after it in the list of sites. -/
theorem Precedes.mem_rest {past rest : List Site} (hts : q.Precedes t s)
    (h : q.sites = past ++ t :: rest) : s ∈ rest := by
  have hmem : s ∈ past ++ t :: rest := h ▸ hts.mem_right
  rw [List.mem_append, List.mem_cons] at hmem
  rcases hmem with hpast | rfl | hrest
  · exact absurd (hts.trans ((precedes_iff_mem h).mpr hpast)) (not_precedes_self q t)
  · exact absurd hts (not_precedes_self q s)
  · exact hrest

/-! ### Behind and ahead -/

theorem mem_walk_of_mem_past {past rest : List Site} (h : q.sites = past ++ s :: rest)
    (ht : t ∈ past) : t ∈ q.walk := by
  rw [mem_walk_iff_mem_sites, h]
  exact List.mem_append_left _ ht

theorem mem_walk_of_sites_eq {past rest : List Site} (h : q.sites = past ++ s :: rest) :
    s ∈ q.walk := by
  rw [mem_walk_iff_mem_sites, h]
  exact List.mem_append_right _ List.mem_cons_self

theorem node_ne_of_mem_past {past rest : List Site} (h : q.sites = past ++ s :: rest)
    (ht : t ∈ past) : t.node ≠ s.node := by
  intro hnode
  have hts : t = s := eq_of_node_eq (mem_walk_of_mem_past h ht) (mem_walk_of_sites_eq h) hnode
  exact not_precedes_self q s ((precedes_iff_mem h).mpr (hts ▸ ht))

/-! ### Above and below -/

/-- What stands below a site is visited in one go. -/
theorem visit_isInfix (hs : s ∈ q.sites) : s.visit <:+: q.sites := by
  induction Site.mem_visit_iff.mp hs with
  | refl => exact List.infix_rfl
  | @tail t c ht hc ih =>
    have hbranch : c.visit <:+: t.children.flatMap Site.visit :=
      List.infix_of_mem_flatten (List.mem_map_of_mem hc)
    have htail : t.children.flatMap Site.visit <:+: t.visit := by
      rw [Site.visit_eq t]
      exact (List.suffix_cons _ _).isInfix
    exact (hbranch.trans htail).trans (ih (Site.mem_visit_iff.mpr ht))

/-- A site is visited before everything below it. -/
theorem precedes_of_transGen (hs : s ∈ q.sites) (h : Relation.TransGen Site.HasChild s t) :
    q.Precedes s t := by
  obtain ⟨c, hc, hct⟩ := Relation.TransGen.head'_iff.mp h
  have hbelow : t ∈ s.children.flatMap Site.visit :=
    List.mem_flatMap.mpr ⟨c, hc, Site.mem_visit_iff.mpr hct⟩
  have hsub : [s, t].Sublist s.visit := by
    rw [Site.visit_eq s]
    exact (List.singleton_sublist.mpr hbelow).cons_cons s
  exact hsub.trans (visit_isInfix hs).sublist

/-- A parent precedes its children. -/
theorem precedes_of_mem_children (ht : t ∈ q.sites) (hs : s ∈ t.children) : q.Precedes t s :=
  precedes_of_transGen ht (.single hs)

/-- A chain of children leads from a site to every other one whose node stands below. -/
theorem transGen_of_standsAbove (hs : s ∈ q.walk) (ht : t ∈ q.walk)
    (h : s.node.StandsAbove t.node) : Relation.TransGen Site.HasChild s t := by
  have hchain : Relation.ReflTransGen Node.HasChild s.node t.node := h.to_reflTransGen
  obtain ⟨t', hnode, hreach⟩ := Node.exists_site_of_reflTransGen hchain
  have ht' : t' ∈ q.walk := mem_walk_iff.mpr ((mem_walk_iff.mp hs).trans hreach)
  obtain rfl : t' = t := eq_of_node_eq ht' ht hnode
  rcases Relation.reflTransGen_iff_eq_or_transGen.mp hreach with rfl | hbelow
  · exact absurd h (Node.not_standsAbove_self _)
  · exact hbelow

theorem mem_walk_of_mem_site_walk (hs : s ∈ q.walk) (ht : t ∈ s.walk) : t ∈ q.walk :=
  mem_walk_iff.mpr ((mem_walk_iff.mp hs).trans (Site.mem_walk_iff.mp ht))

theorem node_mem_walk_of_mem_walk (ht : t ∈ s.walk) : t.node ∈ s.node.walk :=
  Node.mem_walk_iff.mpr (Node.reflTransGen_of_sites (Site.mem_walk_iff.mp ht))

theorem mem_walk_of_standsAbove (hs : s ∈ q.walk) (ht : t ∈ q.walk)
    (h : s.node.StandsAbove t.node) : t ∈ s.walk :=
  Site.mem_walk_iff.mpr (transGen_of_standsAbove hs ht h).to_reflTransGen

/-- What stands above a site is visited before it. -/
theorem precedes_of_standsAbove (hs : s ∈ q.sites) (ht : t ∈ q.sites)
    (h : s.node.StandsAbove t.node) : q.Precedes s t :=
  precedes_of_transGen hs (transGen_of_standsAbove (mem_walk_iff_mem_sites.mpr hs)
    (mem_walk_iff_mem_sites.mpr ht) h)

/-- Once a site is left behind, everything below it is. -/
theorem Precedes.of_not_standsAbove (h : q.Precedes t s) (hs : ¬ t.node.StandsAbove s.node)
    (hu : u ∈ t.visit) : q.Precedes u s := by
  obtain ⟨before, after, hsplit⟩ := visit_isInfix h.mem_left
  have hfront : q.sites = before ++ t :: (t.children.flatMap Site.visit ++ after) := by
    rw [← hsplit, Site.visit_eq t, List.append_assoc, List.cons_append]
  rcases List.mem_append.mp (h.mem_rest hfront) with hbelow | hafter
  · -- a chain of children leads from `t` to `s`
    obtain ⟨c, hc, hsc⟩ := List.mem_flatMap.mp hbelow
    have hchild : t.node.HasChild c.node := by
      obtain ⟨m, hm, rfl⟩ := List.mem_map.mp hc
      exact hm
    have hchain := Node.reflTransGen_of_sites (Site.mem_visit_iff.mp hsc)
    exact absurd (Relation.TransGen.head' hchild hchain) hs
  · obtain ⟨past, rest, rfl⟩ := List.append_of_mem hafter
    have hlast : q.sites = (before ++ t.visit ++ past) ++ s :: rest := by
      rw [← hsplit, List.append_assoc (before ++ t.visit)]
    rw [precedes_iff_mem hlast]
    exact List.mem_append_left _ (List.mem_append_right _ hu)

theorem sublist_flatMap_visit (ss : List Site) : ss.Sublist (ss.flatMap Site.visit) := by
  induction ss with
  | nil => exact .slnil
  | cons s rest ih =>
    rw [List.flatMap_cons, Site.visit_eq s, List.cons_append]
    exact (ih.trans (List.sublist_append_right _ _)).cons_cons s

theorem nodup_visit (hs : s ∈ q.walk) : s.visit.Nodup :=
  (visit_isInfix (mem_walk_iff_mem_sites.mp hs)).sublist.nodup q.sites_nodup

/-- The children of a node differ. -/
theorem nodup_children (hs : s ∈ q.walk) : s.node.children.Nodup := by
  have hvisit := nodup_visit hs
  rw [Site.visit_eq] at hvisit
  exact List.Nodup.of_map s.under ((sublist_flatMap_visit s.children).nodup hvisit.of_cons)

/-! ### Level by level -/

theorem nodup_walk (hs : s ∈ q.walk) : s.walk.Nodup := by
  rw [s.walk_perm_visit.nodup_iff]
  exact nodup_visit hs

end Program

theorem queueWalk_perm (queue : List Site) : (queueWalk queue).Perm (queue.flatMap Site.visit) := by
  rw [queueWalk_eq_flatten_forestLevels]
  exact flatten_forestLevels_perm fun s _ => s.walk_perm_visit

/-- What stands below a site waits in the queue, or below it, once the site is given out. -/
theorem pair_sublist_queueWalk {queue : List Site} {t u : Site} (ht : t ∈ queueWalk queue)
    (h : Relation.TransGen Site.HasChild t u) : [t, u].Sublist (queueWalk queue) := by
  fun_induction queueWalk queue with
  | case1 => exact absurd ht List.not_mem_nil
  | case2 s queue ih =>
    rcases List.mem_cons.mp ht with rfl | hlater
    · obtain ⟨c, hc, hcu⟩ := Relation.TransGen.head'_iff.mp h
      have hu : u ∈ queueWalk (queue ++ t.children) := by
        rw [(queueWalk_perm _).mem_iff]
        exact List.mem_flatMap.mpr
          ⟨c, List.mem_append_right _ hc, Site.mem_visit_iff.mpr hcu⟩
      exact (List.singleton_sublist.mpr hu).cons_cons t
    · exact (ih hlater).cons s

/-- Which nodes a walk meets does not depend on what stands above. -/
theorem map_node_queueWalk {queue queue' : List Site}
    (h : queue.map Site.node = queue'.map Site.node) :
    (queueWalk queue).map Site.node = (queueWalk queue').map Site.node := by
  fun_induction queueWalk queue generalizing queue' with
  | case1 =>
    obtain rfl := List.map_eq_nil_iff.mp h.symm
    rw [queueWalk_nil]
  | case2 s queue ih =>
    obtain ⟨t, rest, rfl, hnode, hrest⟩ := List.map_eq_cons_iff.mp h.symm
    have hchildren : s.children.map Site.node = t.children.map Site.node := by
      simp only [Site.children, List.map_map, hnode]
      rfl
    rw [queueWalk_cons, List.map_cons, List.map_cons, hnode]
    refine congrArg _ (ih ?_)
    rw [List.map_append, List.map_append, hrest, hchildren]

theorem Site.map_node_walk (s : Site) : s.walk.map Site.node = s.node.walk := by
  rw [Node.walk, ← queueWalk_eq_walk, ← queueWalk_eq_walk]
  exact map_node_queueWalk rfl

/-- A walk meets a site before everything below it. -/
theorem Site.pair_sublist_walk {s t u : Site} (ht : t ∈ s.walk)
    (h : Relation.TransGen HasChild t u) : [t, u].Sublist s.walk := by
  rw [← queueWalk_eq_walk] at ht ⊢
  exact pair_sublist_queueWalk ht h

/-! ### Branches -/

theorem Node.standsAbove_of_mem_walk {p c n : Node} (hc : c ∈ p.children) (hn : n ∈ c.walk) :
    p.StandsAbove n :=
  Relation.TransGen.head' hc (mem_walk_iff.mp hn)

namespace Program

variable {q : Program} {p c d m n : Node}

/-- The branches below a node have nothing in common. -/
theorem eq_of_mem_walk (hp : p ∈ q.root.walk) (hc : c ∈ p.children) (hd : d ∈ p.children)
    (hnc : n ∈ c.walk) (hnd : n ∈ d.walk) : c = d := by
  obtain ⟨s, hs, rfl⟩ := exists_site hp
  -- both branches hold the one site of `n`
  have hbelow {e : Node} (he : e ∈ s.node.children) (hn : n ∈ e.walk) :
      ∃ t ∈ (s.under e).visit, t.node = n ∧ t ∈ q.walk := by
    have hnodes : e.walk = (s.under e).walk.map Site.node := (s.under e).map_node_walk.symm
    rw [hnodes] at hn
    obtain ⟨t, ht, hnode⟩ := List.mem_map.mp hn
    exact ⟨t, (s.under e).walk_perm_visit.mem_iff.mp ht, hnode,
      mem_walk_of_mem_site_walk (under_mem_walk hs he) ht⟩
  obtain ⟨t, htc, htn, ht⟩ := hbelow hc hnc
  obtain ⟨u, hud, hun, hu⟩ := hbelow hd hnd
  obtain rfl := eq_of_node_eq ht hu (htn.trans hun.symm)
  have hvisit := nodup_visit hs
  rw [Site.visit_eq] at hvisit
  have hapart := (List.nodup_flatMap.mp hvisit.of_cons).2
  have : Std.Symm (Function.onFun List.Disjoint Site.visit) := ⟨fun _ _ h => List.disjoint_symm h⟩
  by_contra hne
  have hsites : s.under c ≠ s.under d := fun h => hne (congrArg Site.node h)
  exact hapart.forall (List.mem_map_of_mem hc) (List.mem_map_of_mem hd) hsites htc hud

/-- What stands between a node and something in one of its branches stands in that branch. -/
theorem mem_walk_of_between (hp : p ∈ q.root.walk) (hc : c ∈ p.children) (hn : n ∈ c.walk)
    (hpm : p.StandsAbove m) (hmn : m.StandsAbove n) : m ∈ c.walk := by
  obtain ⟨d, hd, hdm⟩ := Relation.TransGen.head'_iff.mp hpm
  have hm : m ∈ d.walk := Node.mem_walk_iff.mpr hdm
  have hnd : n ∈ d.walk := Node.mem_walk_iff.mpr (hdm.trans hmn.to_reflTransGen)
  rwa [eq_of_mem_walk hp hc hd hn hnd]

end Program

end Stricture
