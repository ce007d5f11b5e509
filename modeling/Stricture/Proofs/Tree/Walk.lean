import Mathlib.Data.List.Perm.Basic
import Mathlib.Logic.Relation
import Stricture.Grouping
import Stricture.Tree.Program

/-!
# The sites of a tree

The two orders in which rules see a tree list the same sites, and these are the sites that can be
reached from the top by going from parents to children.

* `mem_visit_iff`: `s.visit` holds exactly what can be reached from `s` downwards.
* `walk_perm_visit`: `s.walk` is a rearrangement of `s.visit`.
* `queueWalk_eq_walk`: going level by level is the same as working off a queue, in which the
  children of a node line up behind everything that waits already.
-/

open scoped List

namespace Stricture

/-! ### Parents before children -/

theorem Node.outline_eq (n : Node) : n.outline = .mk n (n.children.map Node.outline) := by
  have hnode := n.outline_node
  have hbranches := n.outline_branches
  cases ho : n.outline with
  | mk node branches =>
    rw [ho] at hnode hbranches
    simp only [Outline.node, Outline.branches] at hnode hbranches
    rw [hnode, hbranches]

theorem branchSites_eq_flatMap (above : List Node) (branches : List Outline) :
    branchSites above branches = branches.flatMap (Outline.sites above) := by
  induction branches with
  | nil => rw [branchSites]; rfl
  | cons o rest ih => rw [branchSites, ih]; rfl

namespace Site

/-- The site itself, and then the branches one after the other. -/
theorem visit_eq (s : Site) : s.visit = s :: s.children.flatMap visit := by
  rw [visit, Node.outline_eq, Outline.sites, branchSites_eq_flatMap, List.flatMap_map, children,
    List.flatMap_map]
  rfl

/-- Induction from the children of a site to the site. -/
theorem childInduction {P : Site → Prop} (step : ∀ s, (∀ c ∈ s.children, P c) → P s)
    (s : Site) : P s := by
  obtain ⟨n, above⟩ := s
  induction n using Node.childInduction generalizing above with
  | step n ih =>
    refine step _ fun c hc => ?_
    obtain ⟨m, hm, rfl⟩ := List.mem_map.mp hc
    exact ih m hm (n :: above)

/-- `t` is a child of `s`. -/
def HasChild (s t : Site) : Prop :=
  t ∈ s.children

theorem under_mem_children {s : Site} {c : Node} (hc : c ∈ s.node.children) :
    s.under c ∈ s.children :=
  List.mem_map_of_mem hc

theorem mem_visit_self (s : Site) : s ∈ s.visit := by
  rw [visit_eq]; exact List.mem_cons_self

/-- **Visiting reaches what stands below.** The sites of a visit are those to which a chain of
children leads. -/
theorem mem_visit_iff {s t : Site} : t ∈ s.visit ↔ Relation.ReflTransGen HasChild s t := by
  constructor
  · intro ht
    induction s using Site.childInduction with
    | step s ih =>
      rw [visit_eq] at ht
      rcases List.mem_cons.mp ht with rfl | ht
      · exact .refl
      · obtain ⟨c, hc, htc⟩ := List.mem_flatMap.mp ht
        exact .head hc (ih c hc htc)
  · intro h
    induction h using Relation.ReflTransGen.head_induction_on with
    | refl => exact mem_visit_self t
    | head hc _ ih =>
      rw [visit_eq]
      exact List.mem_cons_of_mem _ (List.mem_flatMap.mpr ⟨_, hc, ih⟩)

end Site

/-! ### Level by level -/

@[simp]
theorem joinLevels_nil_left {α : Type} (ys : List (List α)) : joinLevels [] ys = ys := by
  rw [joinLevels]

@[simp]
theorem joinLevels_nil_right {α : Type} (xs : List (List α)) : joinLevels xs [] = xs := by
  cases xs <;> simp [joinLevels]

@[simp]
theorem joinLevels_cons_cons {α : Type} (x y : List α) (xs ys : List (List α)) :
    joinLevels (x :: xs) (y :: ys) = (x ++ y) :: joinLevels xs ys := by
  rw [joinLevels]

theorem joinLevels_assoc {α : Type} : ∀ xs ys zs : List (List α),
    joinLevels (joinLevels xs ys) zs = joinLevels xs (joinLevels ys zs)
  | [], ys, zs => by simp
  | x :: xs, [], zs => by simp
  | x :: xs, y :: ys, [] => by simp
  | x :: xs, y :: ys, z :: zs => by
    simp only [joinLevels_cons_cons, List.append_assoc, joinLevels_assoc xs ys zs]

/-- Joining levels loses nothing and adds nothing. -/
theorem flatten_joinLevels_perm {α : Type} : ∀ xs ys : List (List α),
    (joinLevels xs ys).flatten ~ xs.flatten ++ ys.flatten
  | [], ys => by simp
  | x :: xs, [] => by simp
  | x :: xs, y :: ys => by
    simp only [joinLevels_cons_cons, List.flatten_cons, List.append_assoc]
    refine List.Perm.append_left x ?_
    calc y ++ (joinLevels xs ys).flatten
      _ ~ y ++ (xs.flatten ++ ys.flatten) := (flatten_joinLevels_perm xs ys).append_left y
      _ = (y ++ xs.flatten) ++ ys.flatten := by rw [List.append_assoc]
      _ ~ (xs.flatten ++ y) ++ ys.flatten := List.perm_append_comm.append_right _
      _ = xs.flatten ++ (y ++ ys.flatten) := by rw [List.append_assoc]

/-- The levels of several sites, joined. -/
def forestLevels : List Site → List (List Site)
  | [] => []
  | s :: rest => joinLevels (s.node.outline.levels s.above) (forestLevels rest)

theorem branchLevels_eq_forestLevels (above : List Node) (ns : List Node) :
    branchLevels above (ns.map Node.outline) = forestLevels (ns.map fun n => ⟨n, above⟩) := by
  induction ns with
  | nil => rw [List.map_nil, branchLevels]; rfl
  | cons n rest ih => rw [List.map_cons, branchLevels, ih]; rfl

/-- The top level is the site alone; the children and what is below them follow. -/
theorem Site.levels_eq (s : Site) :
    s.node.outline.levels s.above = [s] :: forestLevels s.children := by
  rw [Node.outline_eq, Outline.levels, branchLevels_eq_forestLevels]
  rfl

theorem flatten_forestLevels_perm {ss : List Site} (h : ∀ s ∈ ss, s.walk ~ s.visit) :
    (forestLevels ss).flatten ~ ss.flatMap Site.visit := by
  induction ss with
  | nil => exact .nil
  | cons s rest ih =>
    have hrest := ih fun t ht => h t (List.mem_cons_of_mem s ht)
    exact (flatten_joinLevels_perm _ _).trans ((h s List.mem_cons_self).append hrest)

/-- **Both orders see the same sites**, each of them equally often. -/
theorem Site.walk_perm_visit (s : Site) : s.walk ~ s.visit := by
  induction s using Site.childInduction with
  | step s ih =>
    rw [Site.walk, Site.levels_eq, Site.visit_eq, List.flatten_cons]
    exact (flatten_forestLevels_perm ih).cons s

theorem Site.mem_walk_iff {s t : Site} : t ∈ s.walk ↔ Relation.ReflTransGen HasChild s t := by
  rw [s.walk_perm_visit.mem_iff, mem_visit_iff]

theorem Program.mem_walk_iff_mem_sites {p : Program} {s : Site} : s ∈ p.walk ↔ s ∈ p.sites :=
  p.root.top.walk_perm_visit.mem_iff

/-! ### Working off a queue -/

theorem totalOf_append {α : Type} (count : α → Nat) (xs ys : List α) :
    totalOf count (xs ++ ys) = totalOf count xs + totalOf count ys := by
  induction xs with
  | nil => rw [List.nil_append, totalOf, totalOf, List.foldr_nil, Nat.zero_add]
  | cons x rest ih =>
    have hcons (zs : List α) : totalOf count (x :: zs) = count x + totalOf count zs := rfl
    rw [List.cons_append, hcons, hcons, ih, Nat.add_assoc]

theorem totalOf_congr {α : Type} {count count' : α → Nat} {xs : List α}
    (h : ∀ x ∈ xs, count x = count' x) : totalOf count xs = totalOf count' xs := by
  induction xs with
  | nil => rfl
  | cons x rest ih =>
    have hcons (f : α → Nat) : totalOf f (x :: rest) = f x + totalOf f rest := rfl
    rw [hcons, hcons, h x List.mem_cons_self, ih fun y hy => h y (List.mem_cons_of_mem x hy)]

theorem length_flatMap_eq_totalOf {α β : Type} (f : α → List β) (xs : List α) :
    (xs.flatMap f).length = totalOf (fun x => (f x).length) xs := by
  induction xs with
  | nil => rfl
  | cons x rest ih => rw [List.flatMap_cons, List.length_append, ih]; rfl

/-- How many sites wait in a queue or below it. -/
def waiting (queue : List Site) : Nat :=
  totalOf (fun s => s.visit.length) queue

theorem waiting_step (s : Site) (queue : List Site) :
    waiting (queue ++ s.children) + 1 = waiting (s :: queue) := by
  have hcons : waiting (s :: queue) = s.visit.length + waiting queue := rfl
  rw [hcons, Site.visit_eq, List.length_cons, length_flatMap_eq_totalOf, waiting, totalOf_append]
  simp only [waiting]
  omega

/-- Takes the first site of the queue and sends its children to the end, until nothing waits. -/
def queueWalk : List Site → List Site
  | [] => []
  | s :: queue => s :: queueWalk (queue ++ s.children)
termination_by queue => waiting queue
decreasing_by
  have := waiting_step s queue
  omega

theorem queueWalk_nil : queueWalk [] = [] := by
  rw [queueWalk]

theorem queueWalk_cons (s : Site) (queue : List Site) :
    queueWalk (s :: queue) = s :: queueWalk (queue ++ s.children) := by
  rw [queueWalk]

/-- What waits in front is taken in order before any of the children that line up behind. -/
theorem queueWalk_append (front back : List Site) :
    queueWalk (front ++ back) = front ++ queueWalk (back ++ front.flatMap Site.children) := by
  induction front generalizing back with
  | nil => rw [List.flatMap_nil, List.append_nil, List.nil_append, List.nil_append]
  | cons s rest ih =>
    rw [List.cons_append, queueWalk_cons, List.append_assoc, ih, List.flatMap_cons,
      List.cons_append, List.append_assoc]

theorem forestLevels_append (xs ys : List Site) :
    forestLevels (xs ++ ys) = joinLevels (forestLevels xs) (forestLevels ys) := by
  induction xs with
  | nil => rw [List.nil_append, forestLevels, joinLevels_nil_left]
  | cons x rest ih => rw [List.cons_append, forestLevels, forestLevels, ih, joinLevels_assoc]

/-- The first level of a forest is its tops; the levels of all their children follow. -/
theorem forestLevels_eq_cons {ss : List Site} (h : ss ≠ []) :
    forestLevels ss = ss :: forestLevels (ss.flatMap Site.children) := by
  induction ss with
  | nil => exact absurd rfl h
  | cons s rest ih =>
    rw [forestLevels, Site.levels_eq, List.flatMap_cons, forestLevels_append]
    by_cases hrest : rest = []
    · subst hrest
      simp [forestLevels]
    · rw [ih hrest, joinLevels_cons_cons, List.singleton_append]

theorem waiting_flatMap_children_lt {ss : List Site} (h : ss ≠ []) :
    waiting (ss.flatMap Site.children) < waiting ss := by
  induction ss with
  | nil => exact absurd rfl h
  | cons s rest ih =>
    have hs := waiting_step s rest
    rw [waiting, totalOf_append] at hs
    rw [List.flatMap_cons, waiting, totalOf_append]
    by_cases hrest : rest = []
    · subst hrest
      simp only [List.flatMap_nil]
      omega
    · have := ih hrest
      simp only [waiting] at this hs ⊢
      omega

/-- A queue is worked off level by level. -/
theorem queueWalk_eq_flatten_forestLevels (queue : List Site) :
    queueWalk queue = (forestLevels queue).flatten := by
  induction h : waiting queue using Nat.strongRecOn generalizing queue with
  | ind size ih =>
    by_cases hq : queue = []
    · subst hq
      rw [queueWalk_nil]; rfl
    · -- one whole level at a time: the queue turns into the list of its children
      have hnext := ih _ (h ▸ waiting_flatMap_children_lt hq) (queue.flatMap Site.children) rfl
      have hlevel := queueWalk_append queue []
      rw [List.append_nil, List.nil_append, hnext] at hlevel
      rw [hlevel, forestLevels_eq_cons hq, List.flatten_cons]

/-- **Walking is breadth first**: the sites come in the order in which a queue gives them out. -/
theorem queueWalk_eq_walk (s : Site) : queueWalk [s] = s.walk := by
  rw [queueWalk_eq_flatten_forestLevels, forestLevels, forestLevels, joinLevels_nil_right,
    Site.walk]

end Stricture
